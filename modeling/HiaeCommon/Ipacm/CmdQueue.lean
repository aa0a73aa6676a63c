/-
The two command queues (`ipacm/src/IPACM_CmdQueue.cpp`): any number of threads
in `IPACM_EvtDispatcher::PostEvt`, one in `MessageQueue::Process`, a step of one
of them at a time.

What runs under the mutex is one step: `enqueue`, and a turn of the consumer's
loop up to the message it takes. The rest is not under it, `getInstanceInternal`
and `getInstanceExternal` too: the test of the pointer, the assignment and the
`return` that reads it again are three steps. Pointers are addresses, `NULL` is 0;
an allocation hands out any address not in use, or fails. `posted`, `taken` and
`dispatched` are ghost.
-/
import Mathlib.Logic.Function.Basic

namespace HiaeCommon

open Function (update)

/-- `IPA_EXTERNAL_EVENT_MAX`, the number of external events. -/
def ipaExternalEventMax : Nat := 38

/-- `ipacm_cmd_q_data`. -/
structure CmdQData (δ : Type) where
  event : Nat
  evtData : δ
  deriving DecidableEq, Repr

inductive QueueKind
  | internal | external
  deriving DecidableEq, Repr

/-- The queue `PostEvt` chooses. -/
def CmdQData.queue {δ : Type} (data : CmdQData δ) : QueueKind :=
  if data.event < ipaExternalEventMax then .external else .internal

/-- `MessageQueue`. -/
structure MessageQueue where
  head : Nat
  tail : Nat
  deriving DecidableEq, Repr

/-- Where a thread is in `getInstanceInternal` or `getInstanceExternal`. -/
inductive GetInstance
  | check | create | fetch
  deriving DecidableEq, Repr

/-- Where a thread is in `PostEvt`. -/
inductive Producer (δ : Type)
  | idle
  | getting (g : GetInstance) (data : CmdQData δ)
  | found (data : CmdQData δ) (queue : Nat)
  | made (data : CmdQData δ) (queue item : Nat)
  deriving DecidableEq, Repr

/-- Where the consumer is in `Process`. -/
inductive Consumer
  | gettingInternal (g : GetInstance)
  | gettingExternal (g : GetInstance) (msgQueueInternal : Nat)
  | loop (msgQueueInternal msgQueueExternal : Nat)
  | waiting (msgQueueInternal msgQueueExternal : Nat)
  | holding (msgQueueInternal msgQueueExternal : Nat) (kind : QueueKind) (item : Nat)
  | stopped
  | stoppedHolding (kind : QueueKind) (item : Nat)
  deriving DecidableEq, Repr

/-- The heap, the two singletons and the threads. -/
structure CmdQueues (δ : Type) where
  live : Nat → Bool
  next : Nat → Nat
  data : Nat → CmdQData δ
  liveQueue : Nat → Bool
  messageQueue : Nat → MessageQueue
  inst : QueueKind → Nat
  producer : Nat → Producer δ
  consumer : Consumer
  posted : QueueKind → List (CmdQData δ)
  dispatched : List (QueueKind × CmdQData δ)

/-- A step: `PostEvt` is called; a thread goes on, `addr` being what the
allocator answers if it is asked; a pthread call of a thread fails. -/
inductive QueueAct (δ : Type)
  | postEvt (p : Nat) (data : CmdQData δ)
  | producer (p addr : Nat)
  | producerFails (p : Nat)
  | consumer (addr : Nat)
  | consumerFails
  deriving DecidableEq, Repr

namespace CmdQueues

variable {δ : Type}

/-- Nothing is allocated yet, and `Process` has just been started. -/
def init (blank : CmdQData δ) : CmdQueues δ where
  live _ := false
  next _ := 0
  data _ := blank
  liveQueue _ := false
  messageQueue _ := ⟨0, 0⟩
  inst _ := 0
  producer _ := .idle
  consumer := .gettingInternal .check
  posted _ := []
  dispatched := []

def setProducer (s : CmdQueues δ) (p : Nat) (x : Producer δ) : CmdQueues δ :=
  { s with producer := update s.producer p x }

/-- The test of the pointer. -/
def check (s : CmdQueues δ) (k : QueueKind) : GetInstance := if s.inst k = 0 then .create else .fetch

/-- `inst = new MessageQueue()`, the allocator answering `addr`. -/
def create (s : CmdQueues δ) (k : QueueKind) (addr : Nat) : Option (CmdQueues δ) :=
  if addr = 0 then some { s with inst := update s.inst k 0 }
  else if s.liveQueue addr then none
  else some { s with
    inst := update s.inst k addr
    liveQueue := update s.liveQueue addr true
    messageQueue := update s.messageQueue addr ⟨0, 0⟩ }

/-- `new Message()` and the copy of the event into it. -/
def makeMessage (s : CmdQueues δ) (d : CmdQData δ) (addr : Nat) : CmdQueues δ :=
  { s with live := update s.live addr true, next := update s.next addr 0, data := update s.data addr d }

/-- `MessageQueue::enqueue`. -/
def enqueue (s : CmdQueues δ) (q item : Nat) : CmdQueues δ :=
  let this := s.messageQueue q
  if this.head = 0 then { s with messageQueue := update s.messageQueue q ⟨item, item⟩ }
  else if this.tail = 0 then
    { s with next := update s.next this.head item, messageQueue := update s.messageQueue q { this with tail := item } }
  else
    { s with next := update s.next this.tail item, messageQueue := update s.messageQueue q { this with tail := item } }

/-- `MessageQueue::dequeue` of a queue that is not empty. -/
def dequeue (s : CmdQueues δ) (q : Nat) : CmdQueues δ :=
  let this := s.messageQueue q
  { s with messageQueue := update s.messageQueue q { this with head := s.next this.head } }

/-- A step of `PostEvt`. -/
def stepProducer (s : CmdQueues δ) (p addr : Nat) : Option (CmdQueues δ) :=
  match s.producer p with
  | .idle => none
  | .getting .check d => some (s.setProducer p (.getting (s.check d.queue) d))
  | .getting .create d =>
    (s.create d.queue addr).map fun t => t.setProducer p (if addr = 0 then .idle else .getting .fetch d)
  | .getting .fetch d =>
    some (s.setProducer p (if s.inst d.queue = 0 then .idle else .found d (s.inst d.queue)))
  | .found d q =>
    if addr = 0 then some (s.setProducer p .idle)
    else if s.live addr then none
    else some ((s.makeMessage d addr).setProducer p (.made d q addr))
  | .made d q item =>
    let t := s.enqueue q item
    some ({ t with posted := update t.posted d.queue (t.posted d.queue ++ [d]) }.setProducer p .idle)

/-- `PostEvt` returns early: a failed lock, before anything is enqueued. -/
def failProducer (s : CmdQueues δ) (p : Nat) : Option (CmdQueues δ) :=
  match s.producer p with
  | .made _ _ _ => some (s.setProducer p .idle)
  | _ => none

/-- A turn of the loop: the internal queue first, then the external one, or wait. -/
def take (s : CmdQueues δ) (qi qe : Nat) : CmdQueues δ :=
  if (s.messageQueue qi).head ≠ 0 then
    { s.dequeue qi with consumer := .holding qi qe .internal (s.messageQueue qi).head }
  else if (s.messageQueue qe).head ≠ 0 then
    { s.dequeue qe with consumer := .holding qi qe .external (s.messageQueue qe).head }
  else { s with consumer := .waiting qi qe }

/-- A step of `Process`. -/
def stepConsumer (s : CmdQueues δ) (addr : Nat) : Option (CmdQueues δ) :=
  match s.consumer with
  | .gettingInternal .check => some { s with consumer := .gettingInternal (s.check .internal) }
  | .gettingInternal .create =>
    (s.create .internal addr).map fun t =>
      { t with consumer := if addr = 0 then .stopped else .gettingInternal .fetch }
  | .gettingInternal .fetch =>
    some { s with consumer := if s.inst .internal = 0 then .stopped else .gettingExternal .check (s.inst .internal) }
  | .gettingExternal .check qi => some { s with consumer := .gettingExternal (s.check .external) qi }
  | .gettingExternal .create qi =>
    (s.create .external addr).map fun t =>
      { t with consumer := if addr = 0 then .stopped else .gettingExternal .fetch qi }
  | .gettingExternal .fetch qi =>
    some { s with consumer := if s.inst .external = 0 then .stopped else .loop qi (s.inst .external) }
  | .loop qi qe => some (s.take qi qe)
  | .waiting qi qe => some { s with consumer := .loop qi qe }
  | .holding qi qe k item =>
    -- the callback, and `delete item`
    some { s with
      consumer := .loop qi qe
      dispatched := s.dispatched ++ [(k, s.data item)]
      live := update s.live item false }
  | .stopped => none
  | .stoppedHolding _ _ => none

/-- `Process` returns: a pthread call failed. -/
def failConsumer (s : CmdQueues δ) : Option (CmdQueues δ) :=
  match s.consumer with
  | .loop _ _ | .waiting _ _ => some { s with consumer := .stopped }
  | .holding _ _ k item => some { s with consumer := .stoppedHolding k item }
  | _ => none

def step (s : CmdQueues δ) : QueueAct δ → Option (CmdQueues δ)
  | .postEvt p d =>
    match s.producer p with
    | .idle => some (s.setProducer p (.getting .check d))
    | _ => none
  | .producer p addr => s.stepProducer p addr
  | .producerFails p => s.failProducer p
  | .consumer addr => s.stepConsumer addr
  | .consumerFails => s.failConsumer

end CmdQueues
end HiaeCommon
