/-
# A registered capture and what is detected in it

`CapturePort` of `capture_port.py`: a source delivers a colour and a depth image, registered and
taken while the platform stands still, and a detector names what is in them.

The pixels are left out: an image is its type and shape, and `detectionSamples` stands for the
samples that are drawn from the depth image within a detection.
-/
import MobileBimanual.Tasks.Search
import MobileBimanual.Tasks.SequencePort

namespace MobileBimanual.Tasks

open Activity Oracle Registry

/-! ## 1. Images and entries -/

inductive PixelType where
  | uint8 | float | other
  deriving DecidableEq

structure ImageBuffer where
  pixels : PixelType
  shape : List ℤ
  deriving DecidableEq

structure ImagePair where
  frame : RGBDFrame
  rgb : ImageBuffer
  depth : ImageBuffer
  depthObserved : Scalar
  visible : List String
  occluded : List String

/-- A detection in pixels; `outline` holds its corners and its mask. -/
structure ImageDetection where
  objectId : String
  confidence : Scalar
  outline : String

inductive CaptureBackend where
  | source | detector

/-- What a capture comes to. -/
structure CaptureResult where
  frame : RGBDFrame
  detections : List Detection
  visible : List String
  occluded : List String
  surface : List (List Scalar)

structure CaptureEntry where
  state : EntryStatus
  port : CaptureBackend
  started : ℚ
  requested : ℚ
  reason : String
  cancel : Bool
  destination : StopDestination
  pair : Option ImagePair
  poseRevision : String
  parameters : String
  result : Option CaptureResult

inductive CaptureCall where
  | clock
  | motion
  | ready (backend : CaptureBackend)
  | startSource (goal parameters : String) (requested : ℚ)
  | startDetector (goal : String)
  | poll (backend : CaptureBackend) (goal : String)
  | cancel (backend : CaptureBackend) (goal : String)
  | pair (goal : String)
  | detections (goal : String)
  | surface (pair : ImagePair) (parameters : String)

abbrev CaptureCall.Result : CaptureCall → Type
  | .clock => Scalar
  | .motion => MotionEvidence
  | .ready _ => Bool
  | .startSource .. | .startDetector _ | .cancel .. => Unit
  | .poll .. => PortResult
  | .pair _ => ImagePair
  | .detections _ => List ImageDetection
  | .surface .. => List (List Scalar)

abbrev CaptureCall.Reply (call : CaptureCall) : Type := Except Raised call.Result

abbrev CapturePort := Registry CaptureEntry

abbrev Capture (α : Type) := Activity CaptureCall CaptureCall.Reply Raised CapturePort α

structure CaptureConfig where
  camera : CapturePolicy
  timeout : ℚ
  skew : ℚ
  /-- The time that the parameters of a goal ask for. -/
  requestedOf : String → Except Raised Scalar
  detectionSamples : ImagePair → ImageDetection → Except Raised Detection
  timeout_bounds : 0 < timeout ∧ timeout ≤ 30
  skew_bounds : 0 < skew ∧ skew ≤ camera.maximumAge

/-! ## 2. The functions of the port -/

namespace CapturePort

def isReady : Capture Bool := do
  if (← get).owner.isSome then pure false
  else
    let source ← invoke (CaptureCall.ready .source)
    if source then invoke (CaptureCall.ready .detector) else pure false

/-- `_stop`. -/
def stop (goal reason : String) (cancelled : Bool) : Capture Unit := do
  let e ← Registry.entry keyError goal
  if e.cancel then pure ()
  else
    amend goal fun e =>
      { e with cancel := true, reason, destination := if cancelled then .cancelled else .failed }
    tryCatch (invoke (CaptureCall.cancel e.port goal)) fun _ =>
      amend goal fun e => { e with reason := e.reason ++ ";cancel_unconfirmed" }

def cancel (goal : String) : Capture Unit := stop goal "cancelled" true

def start (config : CaptureConfig) (goal parameters : String) : Capture Unit := do
  let ready ← isReady
  let w ← get
  if ¬ ready ∨ (w.entries.lookup goal).isSome ∨ w.size ≥ 128 then
    throw (invalidTask "capture owned or duplicate")
  else
    let now ← invoke CaptureCall.clock
    let now ← expect (number "capture start" now)
    let requested ← expect (config.requestedOf parameters)
    let requested ← expect (number "requested time" requested)
    if ¬ (0 ≤ requested ∧ requested ≤ now) then
      throw (invalidTask "invalid capture request time")
    else
      let motion ← invoke CaptureCall.motion
      let since ← expect (config.camera.stationarySince motion now)
      modify fun w => w.enter goal
        { state := .running, port := .source, started := now, requested, reason := ""
          cancel := false, destination := .failed, pair := none
          poseRevision := motion.poseRevision, parameters, result := none }
      -- A capture asked for just after the arrival waits for an exposure that has settled.
      tryCatch (invoke (CaptureCall.startSource goal parameters
        (max requested (since + config.camera.settle)))) fun error => stop goal error.text false

/-- The images belong together, and are what the camera is said to deliver. -/
def checkPair (config : CaptureConfig) (pair : ImagePair) : Except Raised Unit := do
  let depthObserved ← number "depth time" pair.depthObserved
  if |depthObserved - pair.frame.observed.value| > config.skew then
    .error (invalidTask "unsynchronized RGB and depth")
  else if pair.rgb ≠ ⟨.uint8, [pair.frame.height, pair.frame.width, 3]⟩ then
    .error (invalidTask "uint8 RGB required")
  else if pair.depth ≠ ⟨.float, pair.rgb.shape.take 2⟩ then
    .error (invalidTask "registered depth in metres required")
  else return

/-- The source has delivered: the images are frozen and go to the detector. -/
def detect (config : CaptureConfig) (goal : String) (e : CaptureEntry) (now : ℚ) :
    Capture Unit := do
  let pair ← invoke (CaptureCall.pair goal)
  let motion ← invoke CaptureCall.motion
  expect (config.camera.validateFrame pair.frame motion now e.requested)
  expect (checkPair config pair)
  amend goal fun e => { e with pair := some pair, port := .detector }
  invoke (CaptureCall.startDetector goal)

/-- The detector has delivered. -/
def complete (config : CaptureConfig) (goal : String) (e : CaptureEntry) (pair : ImagePair)
    (now : ℚ) : Capture Unit := do
  let motion ← invoke CaptureCall.motion
  expect (config.camera.validateFrame pair.frame motion now e.requested)
  let items ← invoke (CaptureCall.detections goal)
  if items.length > 64 then throw (invalidTask "bounded detections required")
  else
    let detections ← expect (items.mapM (config.detectionSamples pair))
    let surface ← invoke (CaptureCall.surface pair e.parameters)
    finish goal fun e => { e with
      state := .succeeded
      result := some ⟨pair.frame, detections, pair.visible, pair.occluded, surface⟩ }

/-- A capture on its way. -/
def advance (config : CaptureConfig) (goal : String) (e : CaptureEntry) (now : ℚ) :
    Capture Unit := do
  let motion ← invoke CaptureCall.motion
  let _ ← expect (config.camera.stationarySince motion now)
  if motion.poseRevision ≠ e.poseRevision then
    throw (invalidTask "pose_changed_during_capture")
  else
    let result ← invoke (CaptureCall.poll e.port goal)
    if result.state = .failed ∨ result.state = .cancelled then
      stop goal (orElse result.reason "capture_backend_failed") false
    else if result.state = .succeeded then
      match e.port, e.pair with
      | .detector, some pair => complete config goal e pair now
      | _, _ => detect config goal e now
    else pure ()

/-- A cancelled capture ends with its backend. -/
def awaitEnd (goal : String) (e : CaptureEntry) : Capture Unit := do
  let result ← invoke (CaptureCall.poll e.port goal)
  if result.state.Terminal then finish goal fun e => { e with state := e.destination.entryStatus }
  else pure ()

def expire (config : CaptureConfig) (goal : String) (e : CaptureEntry) (now : ℚ) :
    Capture Unit :=
  if now < e.started ∨ now - e.started ≥ config.timeout then
    stop goal "capture_timeout_or_clock" false
  else pure ()

def pollRunning (config : CaptureConfig) (goal : String) (e : CaptureEntry) : Capture Unit := do
  let now ← invoke CaptureCall.clock
  let now ← expect (number "capture clock" now)
  expire config goal e now
  let e ← Registry.entry keyError goal
  if e.cancel then awaitEnd goal e else advance config goal e now

def poll (config : CaptureConfig) (goal : String) : Capture PortResult := do
  let e ← Registry.entry keyError goal
  if e.state ≠ .running then return ⟨e.state.status, e.reason⟩
  else
    tryCatch (pollRunning config goal e) fun error => stop goal error.text false
    let e ← Registry.entry keyError goal
    return ⟨e.state.status, e.reason⟩

end CapturePort

end MobileBimanual.Tasks
