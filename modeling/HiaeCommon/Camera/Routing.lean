/-
Which callback object the callbacks of a HAL device reach.

`sCameraDevice` follows the last open of all cameras, and the callback object of a
`CameraDevice` its own last open (`Served.current`, `Served.objects`). So a
callback is right as long as the last open was one with the callback object of
the HAL device that calls back, and a release as long as the `CameraDevice` was
not opened again with another one (`routed_iff`).
-/
import HiaeCommon.Lib.Run
import HiaeCommon.Camera.Device

namespace HiaeCommon.Camera

open Lib (EachStep)

/-! ## What is expected -/

/-- The calls about a memory. -/
def callsAbout (mem : Nat) : Record → List Call
  | .requested q calls => if q = mem then calls else []
  | .released q calls => if q = mem then calls else []
  | _ => []

def Record.raisedBy : Record → Option Nat
  | .raised hal _ => some hal
  | _ => none

def Event.raisedBy : Event → Option Nat
  | .notify hal _ _ _ => some hal
  | .data hal _ _ _ _ => some hal
  | .dataTimestamp hal _ _ _ _ _ => some hal
  | _ => none

def Event.requestedBy : Event → Option Nat
  | .getMemory hal _ _ _ _ => some hal
  | _ => none

/-- The calls a memory has come to, given the callback object it belongs to: it is
registered, and unregistered where it was released. -/
def lifeCalls (callback : CallbackObject) (mem bufSize : Nat) (m : CameraHeapMemory) : List Call :=
  .registerMemory callback mem bufSize m.mNumBufs :: if m.freed then [.unregisterMemory callback m.mId] else []

/-- `m` is a memory that a HAL device of `d` requested and has not released. -/
def Cameras.Unreleased (s : Cameras) (d mem : Nat) (m : CameraHeapMemory) : Prop :=
  s.memories[mem]? = some m ∧ m.freed = false ∧ ∃ hd, s.hals[m.requester]? = some hd ∧ hd.user = d

/-- What is expected after the events `es`. -/
structure Routed (es : List Event) (s : Cameras) : Prop where
  defined : s.undefined = false
  /-- each callback of a HAL device … -/
  raised : s.log.filterMap Record.raisedBy = es.filterMap Event.raisedBy
  /-- … is one message to the callback object given to its open -/
  reached : ∀ hal calls, .raised hal calls ∈ s.log → ∃ hd m, s.hals[hal]? = some hd ∧ calls = [.message hd.callback m]
  /-- each request is for a memory … -/
  requested : s.memories.map (·.requester) = es.filterMap Event.requestedBy
  /-- … that is registered with this object, and unregistered once it is released -/
  registered : ∀ mem m, s.memories[mem]? = some m →
    ∃ hd bufSize, s.hals[m.requester]? = some hd ∧ s.log.flatMap (callsAbout mem) = lifeCalls hd.callback mem bufSize m
  /-- the map has the memories of its own HAL devices -/
  mapped : ∀ d id mem, (s.device d).mMemoryMap id = some mem ↔ ∃ m, s.Unreleased d mem m ∧ m.mId = id

/-! ## When it is so -/

/-- The last HAL device that was opened for this `CameraDevice`. -/
def Cameras.lastOf (s : Cameras) (d : Nat) : Option HalDevice :=
  (s.hals.filter fun hd => hd.user = d).getLast?

/-- The last open of all was given the same callback object as the one of this HAL
device. -/
def Cameras.SameObject (s : Cameras) (hal : Nat) : Prop :=
  ∃ hd last, s.hals[hal]? = some hd ∧ s.hals.getLast? = some last ∧ last.callback = hd.callback

/-- The buffer is one of a memory that could be mapped. -/
def Cameras.Buffer (s : Cameras) (mem index : Nat) : Prop :=
  ∃ m, s.memories[mem]? = some m ∧ m.mapped = true ∧ index < m.mNumBufs

/-- The condition on a step. -/
def Cameras.Meets (s : Cameras) : Event → Prop
  | .notify hal _ _ _ => s.SameObject hal
  | .data hal mem index _ _ => s.Buffer mem index ∧ s.SameObject hal
  | .dataTimestamp hal mem index _ _ _ => s.Buffer mem index ∧ s.SameObject hal
  | .getMemory hal _ _ heap id =>
    -- the last open was one of the same `CameraDevice`, and the id is not in use
    heap ≠ .unallocated ∧ ∃ hd last, s.hals[hal]? = some hd ∧ s.hals.getLast? = some last ∧
      last.callback = hd.callback ∧ last.user = hd.user ∧ ∀ mem m, s.Unreleased hd.user mem m → m.mId ≠ id
  | .putMemory mem =>
    -- the `CameraDevice` was not opened again with another callback object
    ∃ m hd last, s.memories[mem]? = some m ∧ m.mapped = true ∧ s.hals[m.requester]? = some hd ∧
      s.lastOf hd.user = some last ∧ last.callback = hd.callback
  | .releaseRecordingFrame d id bufferIndex _ =>
    (s.device d).mDevice ≠ none →
      ∀ (mem : Nat) (m : CameraHeapMemory), s.Unreleased d mem m → m.mId = id → bufferIndex < m.mNumBufs → m.mapped = true
  | _ => True

/-! ## The invariant -/

structure Served (es : List Event) (s : Cameras) : Prop extends Routed es s where
  current : s.sCameraDevice = s.hals.getLast?.map (·.user)
  objects : ∀ d, (s.device d).mDeviceCallback = (s.lastOf d).map (·.callback)
  /-- each memory has the object of its HAL device -/
  owners : ∀ (mem : Nat) (m : CameraHeapMemory), s.memories[mem]? = some m →
    ∃ hd : HalDevice, s.hals[m.requester]? = some hd ∧ m.mDevice = hd.user
  unborn : ∀ mem, s.memories.length ≤ mem → s.log.flatMap (callsAbout mem) = []

variable {es : List Event} {s : Cameras}

theorem served_initial : Served [] Cameras.initial where
  defined := rfl
  raised := rfl
  reached := fun _ _ h => absurd h List.not_mem_nil
  requested := rfl
  registered := fun mem m h => by simp [Cameras.initial] at h
  mapped := fun d id mem => by simp [Cameras.initial, Cameras.Unreleased]
  current := rfl
  objects := fun _ => rfl
  owners := fun mem m h => by simp [Cameras.initial] at h
  unborn := fun _ _ => rfl

/-- The last open of all is the last one of its own `CameraDevice`. -/
theorem lastOf_last {last : HalDevice} (h : s.hals.getLast? = some last) : s.lastOf last.user = some last := by
  obtain ⟨front, hhals⟩ : ∃ front, s.hals = front ++ [last] := List.getLast?_eq_some_iff.1 h
  unfold Cameras.lastOf
  rw [hhals, List.filter_append, List.filter_cons_of_pos (by simp), List.filter_nil, List.getLast?_concat]

/-- The object a callback reaches is that of the last open. -/
theorem Served.forward_eq (h : Served es s) {last : HalDevice} (hlast : s.hals.getLast? = some last) (hal : Nat)
    (m : CameraDevice → Message) :
    s.forward hal m = s.record (.raised hal [.message last.callback (m (s.device last.user))]) := by
  unfold Cameras.forward
  rw [h.current, hlast]
  simp only [Option.map_some, h.objects, lastOf_last hlast]

/-! ## Steps that leave memory and log -/

/-- Only HAL devices are added, and no map changes. -/
structure Extends (s s' : Cameras) : Prop where
  hals : s.hals <+: s'.hals
  memories : s'.memories = s.memories
  log : s'.log = s.log
  undefined : s'.undefined = s.undefined
  maps : ∀ d, (s'.device d).mMemoryMap = (s.device d).mMemoryMap

theorem Extends.hal {s' : Cameras} (h : Extends s s') {hal : Nat} {hd : HalDevice} (hhd : s.hals[hal]? = some hd) :
    s'.hals[hal]? = some hd := by
  obtain ⟨rest, hrest⟩ := h.hals
  rw [← hrest, List.getElem?_append_left (List.getElem?_eq_some_iff.1 hhd).1, hhd]

theorem Served.extend {s' : Cameras} {e : Event} (h : Served es s) (hext : Extends s s') (hraised : e.raisedBy = none)
    (hreq : e.requestedBy = none) (hcurrent : s'.sCameraDevice = s'.hals.getLast?.map (·.user))
    (hobjects : ∀ d, (s'.device d).mDeviceCallback = (s'.lastOf d).map (·.callback)) : Served (es ++ [e]) s' where
  defined := by rw [hext.undefined, h.defined]
  raised := by rw [hext.log, h.raised, List.filterMap_append, List.filterMap_cons_none hraised, List.filterMap_nil, List.append_nil]
  reached := by
    intro hal calls hmem
    rw [hext.log] at hmem
    obtain ⟨hd, m, hhd, hcalls⟩ := h.reached hal calls hmem
    exact ⟨hd, m, hext.hal hhd, hcalls⟩
  requested := by
    rw [hext.memories, h.requested, List.filterMap_append, List.filterMap_cons_none hreq, List.filterMap_nil, List.append_nil]
  registered := by
    intro mem m hm
    rw [hext.memories] at hm
    obtain ⟨hd, bufSize, hhd, hcalls⟩ := h.registered mem m hm
    exact ⟨hd, bufSize, hext.hal hhd, by rw [hext.log, hcalls]⟩
  mapped := by
    intro d id mem
    rw [hext.maps, h.mapped]
    have hsame (m : CameraHeapMemory) : s'.Unreleased d mem m ↔ s.Unreleased d mem m := by
      unfold Cameras.Unreleased
      rw [hext.memories]
      refine and_congr_right fun hm => and_congr_right fun _ => ?_
      obtain ⟨hd, -, hhd, -⟩ := h.registered mem m hm
      rw [hhd, hext.hal hhd]
    simp only [hsame]
  current := hcurrent
  objects := hobjects
  owners := by
    intro mem m hm
    rw [hext.memories] at hm
    obtain ⟨hd, hhd, hown⟩ := h.owners mem m hm
    exact ⟨hd, hext.hal hhd, hown⟩
  unborn := by
    intro mem hmem
    rw [hext.memories] at hmem
    rw [hext.log, h.unborn mem hmem]

theorem setDevice_device (s : Cameras) (d : Nat) (o : CameraDevice) : (s.setDevice d o).device = Function.update s.device d o := rfl

theorem setDevice_extends {d : Nat} {o : CameraDevice} (hmap : o.mMemoryMap = (s.device d).mMemoryMap) :
    Extends s (s.setDevice d o) where
  hals := List.prefix_refl _
  memories := rfl
  log := rfl
  undefined := rfl
  maps := by
    intro d'
    rw [setDevice_device]
    by_cases hd : d' = d
    · subst hd
      rw [Function.update_self, hmap]
    · rw [Function.update_of_ne hd]

theorem setDevice_callback {d : Nat} {o : CameraDevice} (hcb : o.mDeviceCallback = (s.device d).mDeviceCallback) (d' : Nat) :
    ((s.setDevice d o).device d').mDeviceCallback = (s.device d').mDeviceCallback := by
  rw [setDevice_device]
  by_cases hd : d' = d
  · subst hd
    rw [Function.update_self, hcb]
  · rw [Function.update_of_ne hd]

/-- A device changes in what no callback looks at. -/
theorem Served.setDevice {e : Event} (h : Served es s) {d : Nat} {o : CameraDevice} (hmap : o.mMemoryMap = (s.device d).mMemoryMap)
    (hcb : o.mDeviceCallback = (s.device d).mDeviceCallback) (hraised : e.raisedBy = none) (hreq : e.requestedBy = none) :
    Served (es ++ [e]) (s.setDevice d o) :=
  h.extend (setDevice_extends hmap) hraised hreq h.current fun d' => by
    rw [setDevice_callback hcb, h.objects]
    rfl

theorem Served.same {e : Event} (h : Served es s) (hraised : e.raisedBy = none) (hreq : e.requestedBy = none) :
    Served (es ++ [e]) s :=
  h.extend ⟨List.prefix_refl _, rfl, rfl, rfl, fun _ => rfl⟩ hraised hreq h.current h.objects

theorem Served.openCamera (h : Served es s) (d : Nat) (callback : CallbackObject) (res : Cameras.OpenResult) :
    Served (es ++ [.openCamera d callback res]) (s.openCamera d callback res) := by
  cases res with
  | noCameraInfo => exact h.same rfl rfl
  | failed => exact h.setDevice rfl rfl rfl rfl
  | opened =>
    have hdev : (s.openCamera d callback .opened).device =
        Function.update s.device d { s.device d with mDevice := some s.hals.length, mDeviceCallback := some callback } := rfl
    have hhals : (s.openCamera d callback .opened).hals = s.hals ++ [⟨d, callback⟩] := rfl
    refine h.extend ⟨List.prefix_append _ _, rfl, rfl, rfl, fun d' => ?_⟩ rfl rfl ?_ fun d' => ?_
    · rw [hdev]
      by_cases hd : d' = d
      · subst hd
        rw [Function.update_self]
      · rw [Function.update_of_ne hd]
    · rw [hhals, List.getLast?_concat]
      rfl
    · unfold Cameras.lastOf
      rw [hdev, hhals, List.filter_append]
      by_cases hd : d' = d
      · subst hd
        rw [Function.update_self, List.filter_cons_of_pos (by simp), List.filter_nil, List.getLast?_concat]
        rfl
      · rw [Function.update_of_ne hd, List.filter_cons_of_neg (by simpa using fun h => hd h.symm), List.filter_nil, List.append_nil]
        exact h.objects d'

theorem Served.closeLocked (h : Served es s) (d : Nat) : Served (es ++ [.close d]) (s.closeLocked d) := by
  unfold Cameras.closeLocked
  split
  · exact h.same rfl rfl
  · have hclosed : Served (es ++ [.close d]) (s.setDevice d { s.device d with mDevice := none }) := h.setDevice rfl rfl rfl rfl
    exact { hclosed with }

theorem Served.storeMetaDataInBuffers (h : Served es s) (d : Nat) (enable ok : Bool) :
    Served (es ++ [.storeMetaDataInBuffers d enable ok]) (s.storeMetaDataInBuffers d enable ok) := by
  unfold Cameras.storeMetaDataInBuffers
  split
  · exact h.setDevice rfl rfl rfl rfl
  · exact h.same rfl rfl

/-! ## Callbacks -/

theorem flatMap_record (mem : Nat) (r : Record) : (s.record r).log.flatMap (callsAbout mem) = s.log.flatMap (callsAbout mem) ++ callsAbout mem r := by
  change (s.log ++ [r]).flatMap _ = _
  rw [List.flatMap_append, List.flatMap_singleton]

/-- What a step adds to the log, where it adds nothing about a memory. -/
theorem Served.record {e : Event} {r : Record} (h : Served es s) (hmem : ∀ mem, callsAbout mem r = [])
    (hraised : r.raisedBy = e.raisedBy) (hreq : e.requestedBy = none)
    (hreached : ∀ hal calls, r = .raised hal calls → ∃ hd m, s.hals[hal]? = some hd ∧ calls = [.message hd.callback m]) :
    Served (es ++ [e]) (s.record r) where
  defined := h.defined
  raised := by
    change (s.log ++ [r]).filterMap _ = _
    have hlast : [r].filterMap Record.raisedBy = [e].filterMap Event.raisedBy := by
      simp only [List.filterMap_cons, hraised, List.filterMap_nil]
    rw [List.filterMap_append, List.filterMap_append, h.raised, hlast]
  reached := by
    intro hal calls hin
    rcases List.mem_append.1 hin with hin | hin
    · exact h.reached hal calls hin
    · exact hreached hal calls (List.mem_singleton.1 hin).symm
  requested := by
    rw [List.filterMap_append, List.filterMap_cons_none hreq, List.filterMap_nil, List.append_nil]
    exact h.requested
  registered := by
    intro mem m hm
    rw [flatMap_record, hmem, List.append_nil]
    exact h.registered mem m hm
  mapped := h.mapped
  current := h.current
  objects := h.objects
  owners := h.owners
  unborn := by
    intro mem hle
    rw [flatMap_record, hmem, List.append_nil]
    exact h.unborn mem hle

/-- The last open of all, in a state in which a HAL device is open. -/
theorem exists_last {hal : Nat} (h : hal < s.hals.length) : ∃ hd last, s.hals[hal]? = some hd ∧ s.hals.getLast? = some last := by
  have hne : s.hals ≠ [] := List.ne_nil_of_length_pos (by omega)
  exact ⟨s.hals[hal], s.hals.getLast hne, List.getElem?_eq_getElem h, List.getLast?_eq_some_getLast hne⟩

theorem Served.forward {e : Event} {hal : Nat} (h : Served es s) (hraised : e.raisedBy = some hal) (hreq : e.requestedBy = none)
    (hsame : s.SameObject hal) (m : CameraDevice → Message) : Served (es ++ [e]) (s.forward hal m) := by
  obtain ⟨hd, last, hhd, hlast, hcb⟩ := hsame
  rw [h.forward_eq hlast]
  refine h.record (fun _ => rfl) hraised.symm hreq fun hal' calls heq => ?_
  cases heq
  exact ⟨hd, _, hhd, by rw [hcb]⟩

/-- A callback that reaches the right object was served by the last open. -/
theorem Served.sameObject {es' : List Event} {hal : Nat} (h : Served es s) (hopen : s.HalOpen hal) {m : CameraDevice → Message}
    (hr : Routed es' (s.forward hal m)) : s.SameObject hal := by
  obtain ⟨hd, last, hhd, hlast⟩ := exists_last hopen.1
  rw [h.forward_eq hlast] at hr
  obtain ⟨hd', m', hhd', hcalls⟩ := hr.reached hal _ (List.mem_append_right _ List.mem_cons_self)
  have hsame : some hd = some hd' := hhd.symm.trans hhd'
  cases hsame
  simp only [List.cons.injEq, Call.message.injEq, and_true] at hcalls
  exact ⟨hd, last, hhd, hlast, hcalls.1⟩

/-- A data callback, with memory that its HAL device holds. -/
theorem bufferCallback_eq {hal mem : Nat} (index : Nat) (hold : s.Holds hal mem) (message : CameraHeapMemory → CameraDevice → Message) :
    ∃ m, s.memories[mem]? = some m ∧ s.bufferCallback hal mem index message =
      if m.mapped = false then s.undefinedStep
      else if m.mNumBufs ≤ index then s.record (.raised hal [])
      else s.forward hal (message m) := by
  obtain ⟨m, hm, -, hfreed⟩ := hold
  refine ⟨m, hm, ?_⟩
  unfold Cameras.bufferCallback Cameras.handleOf
  simp only [hm, hfreed, Bool.false_eq_true, not_false_eq_true, and_true]
  cases hmapped : m.mapped with
  | false => simp only [Bool.false_eq_true, if_false, if_true]
  | true => simp only [if_true, Bool.true_eq_false, if_false]

theorem Served.bufferCallback {e : Event} {hal mem index : Nat} (h : Served es s) (hraised : e.raisedBy = some hal)
    (hreq : e.requestedBy = none) (hold : s.Holds hal mem) (hbuf : s.Buffer mem index) (hsame : s.SameObject hal)
    (message : CameraHeapMemory → CameraDevice → Message) : Served (es ++ [e]) (s.bufferCallback hal mem index message) := by
  obtain ⟨m, hm, heq⟩ := bufferCallback_eq index hold message
  obtain ⟨m', hm', hmapped, hindex⟩ := hbuf
  have hmm : some m = some m' := hm.symm.trans hm'
  cases hmm
  rw [heq, if_neg (by rw [hmapped]; decide), if_neg (by omega)]
  exact h.forward hraised hreq hsame _

theorem Served.buffer {es' : List Event} {hal mem index : Nat} (h : Served es s) (hopen : s.HalOpen hal) (hold : s.Holds hal mem)
    {message : CameraHeapMemory → CameraDevice → Message} (hr : Routed es' (s.bufferCallback hal mem index message)) :
    s.Buffer mem index ∧ s.SameObject hal := by
  obtain ⟨m, hm, heq⟩ := bufferCallback_eq index hold message
  rw [heq] at hr
  split at hr
  · exact absurd hr.defined (by simp [Cameras.undefinedStep])
  next hmapped =>
    split at hr
    next hindex =>
      obtain ⟨hd, m', -, hcalls⟩ := hr.reached hal [] (List.mem_append_right _ List.mem_cons_self)
      cases hcalls
    next hindex => exact ⟨⟨m, hm, by simpa using hmapped, by omega⟩, h.sameObject hopen hr⟩

/-! ## Requests for memory -/

/-- The memory of a request, and the state with it: it is in the map of the object
that was opened last. -/
def requestedMemory (o hal numBufs : Nat) (heap : Cameras.Heap) (id : MemoryId) : CameraHeapMemory where
  mNumBufs := numBufs
  mId := id
  mDevice := o
  mapped := heap = .mapped
  requester := hal
  freed := false

def Cameras.grown (s : Cameras) (last : HalDevice) (hal bufSize numBufs : Nat) (heap : Cameras.Heap) (id : MemoryId) : Cameras :=
  { s with
    memories := s.memories ++ [requestedMemory last.user hal numBufs heap id]
    device := Function.update s.device last.user
      { s.device last.user with mMemoryMap := Function.update (s.device last.user).mMemoryMap id (some s.memories.length) }
    log := s.log ++ [.requested s.memories.length [.registerMemory last.callback s.memories.length bufSize numBufs]] }

theorem Served.sGetMemory_eq (h : Served es s) {last : HalDevice} (hlast : s.hals.getLast? = some last)
    (hal bufSize numBufs : Nat) (heap : Cameras.Heap) (id : MemoryId) :
    s.sGetMemory hal bufSize numBufs heap id =
      if heap = .unallocated then s.undefinedStep else s.grown last hal bufSize numBufs heap id := by
  have hcurrent : s.sCameraDevice = some last.user := by
    rw [h.current, hlast, Option.map_some]
  have hobject : (s.device last.user).mDeviceCallback = some last.callback := by
    rw [h.objects, lastOf_last hlast, Option.map_some]
  unfold Cameras.sGetMemory
  split
  next hnone =>
    rw [hcurrent] at hnone
    cases hnone
  next o ho =>
    rw [hcurrent] at ho
    cases ho
    split
    next hnone =>
      rw [hobject] at hnone
      cases hnone
    next callback hcb =>
      rw [hobject] at hcb
      cases hcb
      rfl

section Grown

variable {last : HalDevice} {hal bufSize numBufs : Nat} {heap : Cameras.Heap} {id : MemoryId}

theorem grown_device : (s.grown last hal bufSize numBufs heap id).device = Function.update s.device last.user
    { s.device last.user with mMemoryMap := Function.update (s.device last.user).mMemoryMap id (some s.memories.length) } := rfl

theorem grown_map (d : Nat) (id' : MemoryId) :
    ((s.grown last hal bufSize numBufs heap id).device d).mMemoryMap id' =
      if d = last.user ∧ id' = id then some s.memories.length else (s.device d).mMemoryMap id' := by
  rw [grown_device]
  by_cases hd : d = last.user
  · subst hd
    rw [Function.update_self]
    dsimp only
    by_cases hid : id' = id
    · subst hid
      rw [Function.update_self, if_pos ⟨rfl, rfl⟩]
    · rw [Function.update_of_ne hid, if_neg fun h => hid h.2]
  · rw [Function.update_of_ne hd, if_neg fun h => hd h.1]

/-- A memory that was there, or the new one. -/
theorem grown_memories {mem : Nat} {m : CameraHeapMemory} :
    (s.grown last hal bufSize numBufs heap id).memories[mem]? = some m ↔
      s.memories[mem]? = some m ∨ mem = s.memories.length ∧ m = requestedMemory last.user hal numBufs heap id := by
  change (s.memories ++ [requestedMemory last.user hal numBufs heap id])[mem]? = some m ↔ _
  rw [List.getElem?_append]
  split
  next hlt => exact ⟨.inl, fun h => h.resolve_right fun h => by omega⟩
  next hle =>
    have hnone : s.memories[mem]? = none := List.getElem?_eq_none (by omega)
    rw [hnone]
    rcases Nat.eq_or_lt_of_le (Nat.le_of_not_lt hle) with rfl | hlt
    · rw [Nat.sub_self, List.getElem?_cons_zero, Option.some.injEq]
      exact ⟨fun h => .inr ⟨rfl, h.symm⟩, fun h => (h.resolve_left (by simp)).2.symm⟩
    · rw [List.getElem?_eq_none (by rw [List.length_singleton]; omega)]
      constructor
      · intro h
        cases h
      · rintro (h | ⟨rfl, -⟩)
        · cases h
        · omega

theorem grown_log (mem : Nat) :
    (s.grown last hal bufSize numBufs heap id).log.flatMap (callsAbout mem) =
      s.log.flatMap (callsAbout mem) ++
        if s.memories.length = mem then [.registerMemory last.callback s.memories.length bufSize numBufs] else [] := by
  change (s.log ++ [_]).flatMap _ = _
  rw [List.flatMap_append, List.flatMap_singleton]
  rfl

theorem grown_unreleased {hd : HalDevice} (hhd : s.hals[hal]? = some hd) {d mem : Nat} {m : CameraHeapMemory} :
    (s.grown last hal bufSize numBufs heap id).Unreleased d mem m ↔
      s.Unreleased d mem m ∨ mem = s.memories.length ∧ m = requestedMemory last.user hal numBufs heap id ∧ hd.user = d := by
  unfold Cameras.Unreleased
  rw [grown_memories]
  constructor
  · rintro ⟨hm | ⟨rfl, rfl⟩, hfreed, hd', hhd', huser⟩
    · exact .inl ⟨hm, hfreed, hd', hhd', huser⟩
    · have hsame : some hd = some hd' := hhd.symm.trans hhd'
      cases hsame
      exact .inr ⟨rfl, rfl, huser⟩
  · rintro (⟨hm, hfreed, hu⟩ | ⟨rfl, rfl, huser⟩)
    · exact ⟨.inl hm, hfreed, hu⟩
    · exact ⟨.inr ⟨rfl, rfl⟩, rfl, hd, hhd, huser⟩

theorem Served.grown (h : Served es s) {hd : HalDevice} (hhd : s.hals[hal]? = some hd) (hcb : last.callback = hd.callback)
    (huser : last.user = hd.user) (hfresh : ∀ mem m, s.Unreleased hd.user mem m → m.mId ≠ id) :
    Served (es ++ [.getMemory hal bufSize numBufs heap id]) (s.grown last hal bufSize numBufs heap id) where
  defined := h.defined
  raised := by
    change (s.log ++ [_]).filterMap _ = _
    rw [List.filterMap_append, List.filterMap_append, h.raised]
    rfl
  reached := by
    intro hal' calls hin
    rcases List.mem_append.1 hin with hin | hin
    · exact h.reached hal' calls hin
    · cases List.mem_singleton.1 hin
  requested := by
    change (s.memories ++ [_]).map _ = _
    rw [List.map_append, List.filterMap_append, h.requested]
    rfl
  registered := by
    intro mem m hm
    rw [grown_log]
    rcases grown_memories.1 hm with hm | ⟨rfl, rfl⟩
    · have hlt := (List.getElem?_eq_some_iff.1 hm).1
      rw [if_neg (by omega), List.append_nil]
      exact h.registered mem m hm
    · rw [h.unborn _ (Nat.le_refl _), if_pos rfl, hcb]
      exact ⟨hd, bufSize, hhd, rfl⟩
  mapped := by
    intro d id' mem
    rw [grown_map]
    simp only [grown_unreleased hhd]
    by_cases hid : d = last.user ∧ id' = id
    · obtain ⟨rfl, rfl⟩ := hid
      rw [if_pos ⟨rfl, rfl⟩, Option.some.injEq]
      constructor
      · rintro rfl
        exact ⟨_, .inr ⟨rfl, rfl, huser.symm⟩, rfl⟩
      · rintro ⟨m, hm | ⟨rfl, -, -⟩, hmid⟩
        · rw [huser] at hm
          exact absurd hmid (hfresh mem m hm)
        · rfl
    · rw [if_neg hid, h.mapped]
      constructor
      · rintro ⟨m, hm, hmid⟩
        exact ⟨m, .inl hm, hmid⟩
      · rintro ⟨m, hm | ⟨-, rfl, rfl⟩, hmid⟩
        · exact ⟨m, hm, hmid⟩
        · exact absurd ⟨huser.symm, hmid.symm⟩ hid
  current := h.current
  objects := by
    intro d
    rw [grown_device]
    by_cases hd' : d = last.user
    · subst hd'
      rw [Function.update_self]
      exact h.objects _
    · rw [Function.update_of_ne hd']
      exact h.objects d
  owners := by
    intro mem m hm
    rcases grown_memories.1 hm with hm | ⟨rfl, rfl⟩
    · exact h.owners mem m hm
    · exact ⟨hd, hhd, huser⟩
  unborn := by
    intro mem hle
    have hlen : (s.grown last hal bufSize numBufs heap id).memories.length = s.memories.length + 1 := by
      change (s.memories ++ [_]).length = _
      simp
    rw [grown_log, h.unborn mem (by omega), if_neg (by omega)]
    rfl

/-- A request that ends well was made while the last open was the right one. -/
theorem Served.of_grown {es' : List Event} (h : Served es s) {hd : HalDevice} (hhd : s.hals[hal]? = some hd)
    (hr : Routed es' (s.grown last hal bufSize numBufs heap id)) :
    last.callback = hd.callback ∧ last.user = hd.user ∧ ∀ mem m, s.Unreleased hd.user mem m → m.mId ≠ id := by
  have hborn (mem : Nat) (m : CameraHeapMemory) (hm : s.memories[mem]? = some m) : mem ≠ s.memories.length := by
    have hlt := (List.getElem?_eq_some_iff.1 hm).1
    omega
  have hmap := (hr.mapped hd.user id s.memories.length).2
    ⟨_, (grown_unreleased hhd).2 (.inr ⟨rfl, rfl, rfl⟩), rfl⟩
  rw [grown_map] at hmap
  refine ⟨?_, ?_, ?_⟩
  · obtain ⟨hd', size, hhd', hcalls⟩ := hr.registered _ _ (grown_memories.2 (.inr ⟨rfl, rfl⟩))
    have hsame : some hd = some hd' := hhd.symm.trans hhd'
    cases hsame
    rw [grown_log, h.unborn _ (Nat.le_refl _), if_pos rfl] at hcalls
    simp only [List.nil_append, lifeCalls, List.cons.injEq, Call.registerMemory.injEq] at hcalls
    exact hcalls.1.1
  · by_contra huser
    rw [if_neg fun hc => huser hc.1.symm] at hmap
    obtain ⟨m, ⟨hm, -⟩, -⟩ := (h.mapped _ _ _).1 hmap
    exact hborn _ m hm rfl
  · intro mem m hm hmid
    have hold := (hr.mapped hd.user id mem).2 ⟨m, (grown_unreleased hhd).2 (.inl hm), hmid⟩
    have hnew := (hr.mapped hd.user id s.memories.length).2 ⟨_, (grown_unreleased hhd).2 (.inr ⟨rfl, rfl, rfl⟩), rfl⟩
    rw [hnew, Option.some.injEq] at hold
    exact hborn mem m hm.1 hold.symm

end Grown

/-! ## Releases -/

/-- The memory is freed, and its id no longer in the map. -/
def Cameras.shrunk (s : Cameras) (mem : Nat) (m : CameraHeapMemory) (callback : CallbackObject) : Cameras :=
  { s with
    memories := s.memories.set mem { m with freed := true }
    device := Function.update s.device m.mDevice
      { s.device m.mDevice with mMemoryMap := Function.update (s.device m.mDevice).mMemoryMap m.mId none }
    log := s.log ++ [.released mem [.unregisterMemory callback m.mId]] }

section Shrunk

variable {mem : Nat} {m : CameraHeapMemory} {hd : HalDevice} {callback : CallbackObject}

/-- A HAL device that is there was not opened after the last one of its `CameraDevice`. -/
theorem exists_lastOf {hal : Nat} (hhd : s.hals[hal]? = some hd) : ∃ last, s.lastOf hd.user = some last := by
  have hmem : hd ∈ s.hals.filter fun hd' => hd'.user = hd.user :=
    List.mem_filter.2 ⟨List.mem_of_getElem? hhd, decide_eq_true rfl⟩
  exact ⟨_, List.getLast?_eq_some_getLast (List.ne_nil_of_mem hmem)⟩

theorem Served.sPutMemory_eq (h : Served es s) (hm : s.memories[mem]? = some m) (hfreed : m.freed = false)
    (hhd : s.hals[m.requester]? = some hd) :
    ∃ last, s.lastOf hd.user = some last ∧
      s.sPutMemory mem = if m.mapped = false then s.undefinedStep else s.shrunk mem m last.callback := by
  obtain ⟨last, hlast⟩ := exists_lastOf hhd
  refine ⟨last, hlast, ?_⟩
  have hown : m.mDevice = hd.user := by
    obtain ⟨hd', hhd', hown⟩ := h.owners mem m hm
    have hsame : some hd = some hd' := hhd.symm.trans hhd'
    cases hsame
    exact hown
  have hobject : (s.device m.mDevice).mDeviceCallback = some last.callback := by
    rw [h.objects, hown, hlast, Option.map_some]
  unfold Cameras.sPutMemory Cameras.handleOf
  simp only [hm, hfreed, Bool.false_eq_true, not_false_eq_true, and_true]
  cases hmapped : m.mapped with
  | false => simp only [Bool.false_eq_true, if_false, if_true]
  | true =>
    simp only [if_true, Bool.true_eq_false, if_false]
    split
    next hnone =>
      rw [hobject] at hnone
      cases hnone
    next callback hcb =>
      rw [hobject] at hcb
      cases hcb
      rfl

theorem shrunk_device : (s.shrunk mem m callback).device = Function.update s.device m.mDevice
    { s.device m.mDevice with mMemoryMap := Function.update (s.device m.mDevice).mMemoryMap m.mId none } := rfl

theorem shrunk_map (d : Nat) (id : MemoryId) :
    ((s.shrunk mem m callback).device d).mMemoryMap id =
      if d = m.mDevice ∧ id = m.mId then none else (s.device d).mMemoryMap id := by
  rw [shrunk_device]
  by_cases hd : d = m.mDevice
  · subst hd
    rw [Function.update_self]
    dsimp only
    by_cases hid : id = m.mId
    · subst hid
      rw [Function.update_self, if_pos ⟨rfl, rfl⟩]
    · rw [Function.update_of_ne hid, if_neg fun h => hid h.2]
  · rw [Function.update_of_ne hd, if_neg fun h => hd h.1]

theorem shrunk_memories (hm : s.memories[mem]? = some m) {q : Nat} {x : CameraHeapMemory} :
    (s.shrunk mem m callback).memories[q]? = some x ↔
      q ≠ mem ∧ s.memories[q]? = some x ∨ q = mem ∧ x = { m with freed := true } := by
  have hlt := (List.getElem?_eq_some_iff.1 hm).1
  change (s.memories.set mem { m with freed := true })[q]? = some x ↔ _
  rw [List.getElem?_set]
  by_cases hq : q = mem
  · subst hq
    rw [if_pos rfl, if_pos hlt, Option.some.injEq]
    exact ⟨fun h => .inr ⟨rfl, h.symm⟩, fun h => (h.resolve_left fun h => h.1 rfl).2.symm⟩
  · rw [if_neg (Ne.symm hq)]
    exact ⟨fun h => .inl ⟨hq, h⟩, fun h => (h.resolve_right fun h => hq h.1).2⟩

theorem shrunk_log (q : Nat) : (s.shrunk mem m callback).log.flatMap (callsAbout q) =
    s.log.flatMap (callsAbout q) ++ if mem = q then [.unregisterMemory callback m.mId] else [] := by
  change (s.log ++ [_]).flatMap _ = _
  rw [List.flatMap_append, List.flatMap_singleton]
  rfl

theorem shrunk_unreleased (hm : s.memories[mem]? = some m) {d q : Nat} {x : CameraHeapMemory} :
    (s.shrunk mem m callback).Unreleased d q x ↔ q ≠ mem ∧ s.Unreleased d q x := by
  unfold Cameras.Unreleased
  rw [shrunk_memories hm]
  constructor
  · rintro ⟨⟨hq, hx⟩ | ⟨-, rfl⟩, hfreed, hu⟩
    · exact ⟨hq, hx, hfreed, hu⟩
    · cases hfreed
  · rintro ⟨hq, hx, hu⟩
    exact ⟨.inl ⟨hq, hx⟩, hu⟩

theorem Served.shrunk (h : Served es s) (hm : s.memories[mem]? = some m) (hfreed : m.freed = false)
    (hhd : s.hals[m.requester]? = some hd) :
    Served (es ++ [.putMemory mem]) (s.shrunk mem m hd.callback) where
  defined := h.defined
  raised := by
    change (s.log ++ [_]).filterMap _ = _
    rw [List.filterMap_append, List.filterMap_append, h.raised]
    rfl
  reached := by
    intro hal calls hin
    rcases List.mem_append.1 hin with hin | hin
    · exact h.reached hal calls hin
    · cases List.mem_singleton.1 hin
  requested := by
    have hset : (s.memories.set mem { m with freed := true }).map (·.requester) = s.memories.map (·.requester) := by
      have hlt := (List.getElem?_eq_some_iff.1 hm).1
      apply List.ext_getElem?
      intro q
      rw [List.getElem?_map, List.getElem?_set]
      by_cases hq : mem = q
      · subst hq
        rw [if_pos rfl, if_pos hlt, List.getElem?_map, hm]
        rfl
      · rw [if_neg hq, List.getElem?_map]
    change (s.memories.set mem _).map _ = _
    rw [hset, List.filterMap_append, h.requested]
    exact (List.append_nil _).symm
  registered := by
    intro q x hx
    rw [shrunk_log]
    rcases (shrunk_memories hm).1 hx with ⟨hq, hx⟩ | ⟨rfl, rfl⟩
    · rw [if_neg (Ne.symm hq), List.append_nil]
      exact h.registered q x hx
    · obtain ⟨hd', bufSize, hhd', hcalls⟩ := h.registered q m hm
      have hsame : some hd = some hd' := hhd.symm.trans hhd'
      cases hsame
      refine ⟨hd, bufSize, hhd, ?_⟩
      rw [if_pos rfl, hcalls, lifeCalls, hfreed]
      rfl
  mapped := by
    intro d id q
    rw [shrunk_map]
    simp only [shrunk_unreleased hm]
    by_cases hid : d = m.mDevice ∧ id = m.mId
    · obtain ⟨rfl, rfl⟩ := hid
      rw [if_pos ⟨rfl, rfl⟩]
      constructor
      · intro hc
        cases hc
      · -- no other memory of the device has this id
        rintro ⟨x, ⟨hq, hx⟩, hxid⟩
        obtain ⟨hd', hhd', hown⟩ := h.owners mem m hm
        have hother := (h.mapped _ _ q).2 ⟨x, hx, hxid⟩
        have hself := (h.mapped m.mDevice m.mId mem).2 ⟨m, ⟨hm, hfreed, hd', hhd', hown.symm⟩, rfl⟩
        rw [hself, Option.some.injEq] at hother
        exact absurd hother.symm hq
    · rw [if_neg hid, h.mapped]
      constructor
      · rintro ⟨x, hx, hxid⟩
        refine ⟨x, ⟨?_, hx⟩, hxid⟩
        rintro rfl
        obtain ⟨hxm, -, hd', hhd', huser⟩ := hx
        have hsame : some m = some x := hm.symm.trans hxm
        cases hsame
        obtain ⟨hd'', hhd'', hown⟩ := h.owners _ _ hm
        have hsame' : some hd' = some hd'' := hhd'.symm.trans hhd''
        cases hsame'
        exact hid ⟨by rw [← huser, hown], hxid.symm⟩
      · rintro ⟨x, ⟨-, hx⟩, hxid⟩
        exact ⟨x, hx, hxid⟩
  current := h.current
  objects := by
    intro d
    rw [shrunk_device]
    by_cases hd' : d = m.mDevice
    · subst hd'
      rw [Function.update_self]
      exact h.objects _
    · rw [Function.update_of_ne hd']
      exact h.objects d
  owners := by
    intro q x hx
    rcases (shrunk_memories hm).1 hx with ⟨-, hx⟩ | ⟨rfl, rfl⟩
    · exact h.owners q x hx
    · exact h.owners q m hm
  unborn := by
    intro q hle
    have hlt := (List.getElem?_eq_some_iff.1 hm).1
    have hlen : (s.shrunk mem m hd.callback).memories.length = s.memories.length := List.length_set
    rw [shrunk_log, h.unborn q (by omega), if_neg (by omega)]
    rfl

/-- A release that ends well was made while the object was still the same. -/
theorem Served.of_shrunk {es' : List Event} (h : Served es s) (hm : s.memories[mem]? = some m) (hfreed : m.freed = false)
    (hhd : s.hals[m.requester]? = some hd) (hr : Routed es' (s.shrunk mem m callback)) : callback = hd.callback := by
  obtain ⟨hd', size, hhd', hcalls⟩ := hr.registered mem _ ((shrunk_memories hm).2 (.inr ⟨rfl, rfl⟩))
  obtain ⟨hd'', size', hhd'', hcalls'⟩ := h.registered mem m hm
  have hsame : some hd = some hd' := hhd.symm.trans hhd'
  cases hsame
  rw [shrunk_log, if_pos rfl, hcalls', lifeCalls, hfreed] at hcalls
  simp only [Bool.false_eq_true, if_false, List.cons_append, List.nil_append, lifeCalls, if_true, List.cons.injEq,
    Call.unregisterMemory.injEq] at hcalls
  exact hcalls.2.1.1

end Shrunk

/-! ## Releases of frames -/

/-- The calls of a frame release: the memory of that id is found in the map. -/
theorem Served.releaseRecordingFrame (h : Served es s) (d : Nat) (id : MemoryId) (bufferIndex : Nat) (accepted : Bool)
    (hmeets : s.Meets (.releaseRecordingFrame d id bufferIndex accepted)) :
    Served (es ++ [.releaseRecordingFrame d id bufferIndex accepted]) (s.releaseRecordingFrameLocked d id bufferIndex accepted) := by
  unfold Cameras.releaseRecordingFrameLocked
  split
  next hal mem hdev hmap =>
    obtain ⟨m, hm, hid⟩ := (h.mapped d id mem).1 hmap
    rw [hm.1]
    dsimp only
    rw [if_neg (by rw [hm.2.1]; decide)]
    split
    next => exact h.same rfl rfl
    next hindex =>
      have hmapped := hmeets (by rw [hdev]; simp) mem m hm hid (by omega)
      rw [if_neg (not_not.2 hmapped)]
      split
      · exact h.record (fun _ => rfl) rfl rfl fun hal' calls heq => by cases heq
      · exact h.same rfl rfl
  next => exact h.same rfl rfl

theorem Served.of_releaseRecordingFrame {es' : List Event} (h : Served es s) {d : Nat} {id : MemoryId} {bufferIndex : Nat} {accepted : Bool}
    (hr : Routed es' (s.releaseRecordingFrameLocked d id bufferIndex accepted)) :
    s.Meets (.releaseRecordingFrame d id bufferIndex accepted) := by
  intro hdev mem m hm hid hindex
  have hmap := (h.mapped d id mem).2 ⟨m, hm, hid⟩
  obtain ⟨hal, hhal⟩ := Option.ne_none_iff_exists'.1 hdev
  unfold Cameras.releaseRecordingFrameLocked at hr
  rw [hhal, hmap] at hr
  dsimp only at hr
  rw [hm.1] at hr
  dsimp only at hr
  rw [if_neg (by rw [hm.2.1]; decide), if_neg (by omega)] at hr
  by_contra hmapped
  rw [if_pos hmapped] at hr
  exact absurd hr.defined (by simp [Cameras.undefinedStep])

/-- A frame release finds the memory of its id, where the camera is open and the
memory one that a HAL device of it requested and has not released. -/
theorem Routed.finds_memory (h : Routed es s) {d hal mem bufferIndex : Nat} {m : CameraHeapMemory}
    (hdev : (s.device d).mDevice = some hal) (hm : s.Unreleased d mem m) (hindex : bufferIndex < m.mNumBufs) (hmapped : m.mapped = true) :
    s.releaseRecordingFrameLocked d m.mId bufferIndex true = s.record (.frame [.releaseRecordingFrame hal mem bufferIndex]) := by
  have hmap := (h.mapped d m.mId mem).2 ⟨m, hm, rfl⟩
  unfold Cameras.releaseRecordingFrameLocked
  rw [hdev, hmap]
  dsimp only
  rw [hm.1]
  dsimp only
  rw [if_neg (by rw [hm.2.1]; decide), if_neg (by omega), if_neg (not_not.2 hmapped), if_pos rfl]

/-! ## Runs -/

theorem Served.step {e : Event} (h : Served es s) (hallowed : s.Allowed e) (hmeets : s.Meets e) : Served (es ++ [e]) (s.step e) := by
  cases e with
  | openCamera d callback res => exact h.openCamera d callback res
  | close d => exact h.closeLocked d
  | storeMetaDataInBuffers d enable ok => exact h.storeMetaDataInBuffers d enable ok
  | getMemory hal bufSize numBufs heap id =>
    obtain ⟨hheap, hd, last, hhd, hlast, hcb, huser, hfresh⟩ := hmeets
    have heq := h.sGetMemory_eq hlast hal bufSize numBufs heap id
    rw [if_neg hheap] at heq
    change Served _ (s.sGetMemory hal bufSize numBufs heap id)
    rw [heq]
    exact h.grown hhd hcb huser hfresh
  | putMemory mem =>
    obtain ⟨m, hd, last, hm, hmapped, hhd, hlast, hcb⟩ := hmeets
    obtain ⟨hal, -, m', hm', -, hfreed⟩ := hallowed
    have hsame : some m = some m' := hm.symm.trans hm'
    cases hsame
    obtain ⟨last', hlast', heq⟩ := h.sPutMemory_eq hm hfreed hhd
    have hsame : some last = some last' := hlast.symm.trans hlast'
    cases hsame
    rw [if_neg (by rw [hmapped]; decide), hcb] at heq
    change Served _ (s.sPutMemory mem)
    rw [heq]
    exact h.shrunk hm hfreed hhd
  | notify hal msgType ext1 ext2 =>
    exact h.forward (e := .notify hal msgType ext1 ext2) rfl rfl hmeets fun _ => .notifyCallback msgType ext1 ext2
  | data hal mem index msgType metadata =>
    exact h.bufferCallback (e := .data hal mem index msgType metadata) rfl rfl hallowed.2 hmeets.1 hmeets.2 _
  | dataTimestamp hal mem index msgType timestamp handle =>
    exact h.bufferCallback (e := .dataTimestamp hal mem index msgType timestamp handle) rfl rfl hallowed.2 hmeets.1 hmeets.2 _
  | releaseRecordingFrame d id bufferIndex accepted => exact h.releaseRecordingFrame d id bufferIndex accepted hmeets

theorem Served.meets {e : Event} (h : Served es s) (hallowed : s.Allowed e) (hr : Routed (es ++ [e]) (s.step e)) : s.Meets e := by
  cases e with
  | openCamera d callback res => trivial
  | close d => trivial
  | storeMetaDataInBuffers d enable ok => trivial
  | getMemory hal bufSize numBufs heap id =>
    obtain ⟨hd, last, hhd, hlast⟩ := exists_last hallowed.1
    have heq := h.sGetMemory_eq hlast hal bufSize numBufs heap id
    change Routed _ (s.sGetMemory hal bufSize numBufs heap id) at hr
    rw [heq] at hr
    split at hr
    · exact absurd hr.defined (by simp [Cameras.undefinedStep])
    next hheap => exact ⟨hheap, hd, last, hhd, hlast, h.of_grown hhd hr⟩
  | putMemory mem =>
    obtain ⟨hal, hopen, m, hm, hreq, hfreed⟩ := hallowed
    obtain ⟨hd, -, hhd, -⟩ := exists_last hopen.1
    subst hreq
    obtain ⟨last, hlast, heq⟩ := h.sPutMemory_eq hm hfreed hhd
    change Routed _ (s.sPutMemory mem) at hr
    rw [heq] at hr
    split at hr
    · exact absurd hr.defined (by simp [Cameras.undefinedStep])
    next hmapped => exact ⟨m, hd, last, hm, by simpa using hmapped, hhd, hlast, h.of_shrunk hm hfreed hhd hr⟩
  | notify hal msgType ext1 ext2 =>
    exact h.sameObject (m := fun _ => .notifyCallback msgType ext1 ext2) hallowed hr
  | data hal mem index msgType metadata => exact h.buffer hallowed.1 hallowed.2 hr
  | dataTimestamp hal mem index msgType timestamp handle => exact h.buffer hallowed.1 hallowed.2 hr
  | releaseRecordingFrame d id bufferIndex accepted => exact h.of_releaseRecordingFrame hr

/-- **In a run of any cameras, every callback and every memory goes to the object
of its HAL device exactly when each step is one the last opens are right for.** -/
theorem routed_iff {es : List Event} (hes : EachStep Cameras.step Cameras.Allowed Cameras.initial es) :
    (∀ pre, pre <+: es → Routed pre (pre.foldl Cameras.step Cameras.initial)) ↔
      EachStep Cameras.step Cameras.Meets Cameras.initial es :=
  Lib.eachStep_iff_of (I := Served) (J := Routed) (fun _ _ => Served.toRouted) (fun _ _ _ h => h.step) (fun _ _ _ h => h.meets) served_initial hes

/-- A camera is opened, and its HAL device gets memory, shows it and releases it. -/
def oneCamera : List Event :=
  [.openCamera 0 10 .opened, .getMemory 0 4096 1 .mapped 5, .data 0 0 0 8 none, .putMemory 0, .close 0]

theorem routed_iff_oneCamera : EachStep Cameras.step Cameras.Allowed Cameras.initial oneCamera ∧
    ((∀ pre, pre <+: oneCamera → Routed pre (pre.foldl Cameras.step Cameras.initial)) ↔
      EachStep Cameras.step Cameras.Meets Cameras.initial oneCamera) := by
  have hallowed : EachStep Cameras.step Cameras.Allowed Cameras.initial oneCamera :=
    ⟨trivial, ⟨by decide, rfl⟩, ⟨⟨by decide, rfl⟩, _, rfl, rfl, rfl⟩, ⟨0, ⟨by decide, rfl⟩, _, rfl, rfl, rfl⟩, trivial, trivial⟩
  exact ⟨hallowed, routed_iff hallowed⟩

/-- The callback of the camera that was opened first reaches the object of the
second one. -/
theorem not_routed_twoCameras : ¬ ∀ es, EachStep Cameras.step Cameras.Allowed Cameras.initial es →
    ∀ pre, pre <+: es → Routed pre (pre.foldl Cameras.step Cameras.initial) := by
  intro h
  have hrouted := h [.openCamera 0 10 .opened, .openCamera 1 11 .opened, .notify 0 1 0 0]
    ⟨trivial, trivial, ⟨by decide, rfl⟩, trivial⟩ _ (List.prefix_refl _)
  obtain ⟨hd, m, hhd, hcalls⟩ := hrouted.reached 0 [.message 11 (.notifyCallback 1 0 0)] List.mem_cons_self
  cases hhd
  cases hcalls

end HiaeCommon.Camera
