/-
The camera devices of CameraDevice.cpp between the clients that open them and the
HAL devices that call back.

A HAL device calls back through static functions. They get the object that was
opened as `user` and do not look at it: the object they work on is the one that
the file-level pointer `sCameraDevice` was last set to, except in `sPutMemory`,
which takes the one stored in the memory.
-/
import Mathlib.Data.BitVec
import Mathlib.Logic.Function.Basic

namespace HiaeCommon.Camera

/-! ## State -/

/-- An object of a client, `sp<ICameraDeviceCallback>`. -/
abbrev CallbackObject := Nat

abbrev MemoryId := BitVec 32

/-- One `camera_device_t`, as an open that succeeds gets it from the module. -/
structure HalDevice where
  /-- The `CameraDevice` that opened it, which it gives back as `user`. -/
  user : Nat
  /-- The callback object given to that open. -/
  callback : CallbackObject
  deriving DecidableEq, Repr

structure CameraHeapMemory where
  mNumBufs : Nat
  /-- `handle.mId`. -/
  mId : MemoryId
  /-- `handle.mDevice`. -/
  mDevice : Nat
  /-- `commonInitialization` got through: `handle.handle` and `handle.release` are
  set. -/
  mapped : Bool
  /-- The HAL device that asked for it. -/
  requester : Nat
  freed : Bool
  deriving DecidableEq, Repr

structure CameraDevice where
  /-- `mDevice`: the number of a HAL device. -/
  mDevice : Option Nat
  mDeviceCallback : Option CallbackObject
  mMemoryMap : MemoryId → Option Nat
  mMetadataMode : Bool

/-- A face of the metadata, copied field by field. -/
structure Face where
  score : Int
  id : Int
  rect : List Int
  leftEye : List Int
  rightEye : List Int
  mouth : List Int
  deriving DecidableEq, Repr

/-- What a callback object is told. -/
inductive Message where
  | notifyCallback (msgType ext1 ext2 : BitVec 32)
  | dataCallback (msgType : BitVec 32) (id : MemoryId) (index : Nat) (faces : List Face)
  | dataCallbackTimestamp (msgType : BitVec 32) (id : MemoryId) (index : Nat) (timestamp : Int)
  | handleCallbackTimestamp (msgType : BitVec 32) (handle : Nat) (id : MemoryId) (index : Nat) (timestamp : Int)
  deriving DecidableEq, Repr

/-- A call on a callback object, or on a HAL device. -/
inductive Call where
  | message (object : CallbackObject) (m : Message)
  | registerMemory (object : CallbackObject) (mem : Nat) (bufSize numBufs : Nat)
  | unregisterMemory (object : CallbackObject) (id : MemoryId)
  | releaseRecordingFrame (hal : Nat) (mem : Nat) (bufferIndex : Nat)
  deriving DecidableEq, Repr

/-- The calls that a callback of a HAL device, a request for memory, the release
of one, and the release of a frame come to. -/
inductive Record where
  | raised (hal : Nat) (calls : List Call)
  | requested (mem : Nat) (calls : List Call)
  | released (mem : Nat) (calls : List Call)
  | frame (calls : List Call)
  deriving DecidableEq, Repr

/-- The state of the process, with what happened so far. Memories and HAL devices
are numbered in the order they came to be. -/
structure Cameras where
  device : Nat → CameraDevice
  sCameraDevice : Option Nat
  memories : List CameraHeapMemory
  /-- The HAL devices that were opened, and whether each still is. -/
  hals : List HalDevice
  halOpen : Nat → Bool
  log : List Record
  /-- Something happened that C++ leaves undefined: a null pointer or one that was
  never set was used, or memory that is freed. -/
  undefined : Bool

def Cameras.initial : Cameras where
  device := fun _ => ⟨none, none, fun _ => none, false⟩
  sCameraDevice := none
  memories := []
  hals := []
  halOpen := fun _ => false
  log := []
  undefined := false

namespace Cameras

variable (s : Cameras)

def setDevice (d : Nat) (o : CameraDevice) : Cameras := { s with device := Function.update s.device d o }

def record (r : Record) : Cameras := { s with log := s.log ++ [r] }

def undefinedStep : Cameras := { s with undefined := true }

/-! ## Open and close -/

/-- How `mModule` answers `open`. -/
inductive OpenResult where
  | noCameraInfo
  | failed
  | opened
  deriving DecidableEq, Repr

/-- `CameraDevice::open`. -/
def openCamera (d : Nat) (callback : CallbackObject) : OpenResult → Cameras
  | .noCameraInfo => s
  | .failed => s.setDevice d { s.device d with mDevice := none }
  | .opened =>
    { s with
      device := Function.update s.device d { s.device d with mDevice := some s.hals.length, mDeviceCallback := some callback }
      sCameraDevice := some d
      hals := s.hals ++ [⟨d, callback⟩]
      halOpen := Function.update s.halOpen s.hals.length true }

/-- `CameraDevice::closeLocked`. -/
def closeLocked (d : Nat) : Cameras :=
  match (s.device d).mDevice with
  | none => s
  | some hal =>
    { s with
      device := Function.update s.device d { s.device d with mDevice := none }
      halOpen := Function.update s.halOpen hal false }

/-- `CameraDevice::storeMetaDataInBuffers`, with what the HAL device answers. -/
def storeMetaDataInBuffers (d : Nat) (enable ok : Bool) : Cameras :=
  if (s.device d).mDevice.isSome ∧ ok ∧ enable then s.setDevice d { s.device d with mMetadataMode := true } else s

/-! ## Memory -/

/-- How the constructor of `CameraHeapMemory` ends. -/
inductive Heap where
  | mapped
  | unmapped
  /-- the handle is then closed without ever having been set -/
  | unallocated
  deriving DecidableEq, Repr

/-- `id` is what the callback object returns. -/
def sGetMemory (hal bufSize numBufs : Nat) (heap : Heap) (id : MemoryId) : Cameras :=
  match s.sCameraDevice with
  | none => s.undefinedStep
  | some o =>
    match (s.device o).mDeviceCallback with
    | none => s
    | some callback =>
      if heap = .unallocated then s.undefinedStep
      else
        -- a duplicate id is logged and overwrites the entry
        { s with
          memories := s.memories ++
            [{ mNumBufs := numBufs, mId := id, mDevice := o, mapped := heap = .mapped, requester := hal, freed := false }]
          device := Function.update s.device o
            { s.device o with mMemoryMap := Function.update (s.device o).mMemoryMap id (some s.memories.length) }
          log := s.log ++ [.requested s.memories.length [.registerMemory callback s.memories.length bufSize numBufs]] }

/-- The memory a HAL device names, where its handle is one. -/
def handleOf (mem : Nat) : Option CameraHeapMemory :=
  match s.memories[mem]? with
  | none => none
  | some m => if m.mapped ∧ ¬ m.freed then some m else none

def sPutMemory (mem : Nat) : Cameras :=
  match s.handleOf mem with
  | none => s.undefinedStep
  | some m =>
    match (s.device m.mDevice).mDeviceCallback with
    | none => s.undefinedStep
    | some callback =>
      { s with
        memories := s.memories.set mem { m with freed := true }
        device := Function.update s.device m.mDevice
          { s.device m.mDevice with mMemoryMap := Function.update (s.device m.mDevice).mMemoryMap m.mId none }
        log := s.log ++ [.released mem [.unregisterMemory callback m.mId]] }

/-! ## Callbacks -/

/-- The callback object of the object that `sCameraDevice` points to gets the
message, if there is one. -/
def forward (hal : Nat) (m : CameraDevice → Message) : Cameras :=
  match s.sCameraDevice with
  | none => s.undefinedStep
  | some o =>
    match (s.device o).mDeviceCallback with
    | none => s.record (.raised hal [])
    | some callback => s.record (.raised hal [.message callback (m (s.device o))])

def sNotifyCb (hal : Nat) (msgType ext1 ext2 : BitVec 32) : Cameras :=
  s.forward hal fun _ => .notifyCallback msgType ext1 ext2

/-- Both data callbacks look at the memory first. -/
def bufferCallback (hal mem index : Nat) (message : CameraHeapMemory → CameraDevice → Message) : Cameras :=
  match s.handleOf mem with
  | none => s.undefinedStep
  | some m => if m.mNumBufs ≤ index then s.record (.raised hal []) else s.forward hal (message m)

def sDataCb (hal mem index : Nat) (msgType : BitVec 32) (metadata : Option (List Face)) : Cameras :=
  s.bufferCallback hal mem index fun m _ => .dataCallback msgType m.mId index (metadata.getD [])

/-- `handle` is the native handle in the buffer, where the buffer is one of native
handle metadata. -/
def sDataCbTimestamp (hal mem index : Nat) (msgType : BitVec 32) (timestamp : Int) (handle : Option Nat) : Cameras :=
  s.bufferCallback hal mem index fun m object =>
    match handle with
    | none => .dataCallbackTimestamp msgType m.mId index timestamp
    | some nh =>
      if object.mMetadataMode then .handleCallbackTimestamp msgType nh m.mId index timestamp
      else .dataCallbackTimestamp msgType m.mId index timestamp

/-- `CameraDevice::releaseRecordingFrameLocked`. `accepted`: no handle is given, or
it could be cloned into the buffer. -/
def releaseRecordingFrameLocked (d : Nat) (id : MemoryId) (bufferIndex : Nat) (accepted : Bool) : Cameras :=
  match (s.device d).mDevice, (s.device d).mMemoryMap id with
  | some hal, some mem =>
    match s.memories[mem]? with
    | none => s.undefinedStep
    | some m =>
      if m.freed then s.undefinedStep
      else if m.mNumBufs ≤ bufferIndex then s
      else if ¬ m.mapped then s.undefinedStep
      else if accepted then s.record (.frame [.releaseRecordingFrame hal mem bufferIndex])
      else s
  | _, _ => s

end Cameras

/-! ## Runs -/

inductive Event where
  | openCamera (d : Nat) (callback : CallbackObject) (res : Cameras.OpenResult)
  | close (d : Nat)
  | storeMetaDataInBuffers (d : Nat) (enable ok : Bool)
  | getMemory (hal bufSize numBufs : Nat) (heap : Cameras.Heap) (id : MemoryId)
  | putMemory (mem : Nat)
  | notify (hal : Nat) (msgType ext1 ext2 : BitVec 32)
  | data (hal mem index : Nat) (msgType : BitVec 32) (metadata : Option (List Face))
  | dataTimestamp (hal mem index : Nat) (msgType : BitVec 32) (timestamp : Int) (handle : Option Nat)
  | releaseRecordingFrame (d : Nat) (id : MemoryId) (bufferIndex : Nat) (accepted : Bool)

namespace Cameras

def step (s : Cameras) : Event → Cameras
  | .openCamera d callback res => s.openCamera d callback res
  | .close d => s.closeLocked d
  | .storeMetaDataInBuffers d enable ok => s.storeMetaDataInBuffers d enable ok
  | .getMemory hal bufSize numBufs heap id => s.sGetMemory hal bufSize numBufs heap id
  | .putMemory mem => s.sPutMemory mem
  | .notify hal msgType ext1 ext2 => s.sNotifyCb hal msgType ext1 ext2
  | .data hal mem index msgType metadata => s.sDataCb hal mem index msgType metadata
  | .dataTimestamp hal mem index msgType timestamp handle => s.sDataCbTimestamp hal mem index msgType timestamp handle
  | .releaseRecordingFrame d id bufferIndex accepted => s.releaseRecordingFrameLocked d id bufferIndex accepted

/-- The HAL device is between its successful open and its close. -/
def HalOpen (s : Cameras) (hal : Nat) : Prop :=
  hal < s.hals.length ∧ s.halOpen hal = true

/-- The HAL device was given the memory, and has not released it. -/
def Holds (s : Cameras) (hal mem : Nat) : Prop :=
  ∃ m, s.memories[mem]? = some m ∧ m.requester = hal ∧ m.freed = false

/-- What the HAL devices keep to: they call back while they are open, and use
memory that is theirs. -/
def Allowed (s : Cameras) : Event → Prop
  | .getMemory hal _ _ _ _ => s.HalOpen hal
  | .putMemory mem => ∃ hal, s.HalOpen hal ∧ s.Holds hal mem
  | .notify hal _ _ _ => s.HalOpen hal
  | .data hal mem _ _ _ => s.HalOpen hal ∧ s.Holds hal mem
  | .dataTimestamp hal mem _ _ _ _ => s.HalOpen hal ∧ s.Holds hal mem
  | _ => True

end Cameras

end HiaeCommon.Camera
