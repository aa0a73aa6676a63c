/-
What the command queues do with the messages posted to them.

As long as neither singleton is created twice, every queue holds, in order, the
messages posted to it that the consumer has not taken, and the external queue
is served only when the internal one is empty. But the two `getInstance`
functions run without the mutex: a thread that has found the pointer `NULL`
assigns a queue of its own although another thread has done so in between, and
a message enqueued into the queue that was replaced is never seen again.
-/
import HiaeCommon.Lib.Chains
import HiaeCommon.Lib.Run
import HiaeCommon.Ipacm.CmdQueue

namespace HiaeCommon

open Function (update)
open Lib (Linked lastFrom lastFrom_mem Run)

/-! ## A linked queue -/

/-- From `head`, the messages at the addresses of `l`, in order. -/
def Walk (next : Nat → Nat) (head : Nat) : List Nat → Prop
  | [] => head = 0
  | a :: c => a ≠ 0 ∧ head = a ∧ Linked 0 next a c

/-- The queue object holds the messages at `l`: `Head` leads through them, and
`Tail` is the last of them, if there is one. -/
structure MessageQueue.Contains (this : MessageQueue) (next : Nat → Nat) (l : List Nat) : Prop where
  walk : Walk next this.head l
  tail : ∀ a c, l = a :: c → this.tail = lastFrom a c

namespace Walk

variable {next next' : Nat → Nat} {head : Nat} {l : List Nat}

theorem congr (h : Walk next head l) (hsame : ∀ x ∈ l, next' x = next x) : Walk next' head l := by
  cases l with
  | nil => exact h
  | cons a c => exact ⟨h.1, h.2.1, h.2.2.congr hsame⟩

/-- A queue has one content. -/
theorem unique {l' : List Nat} (h : Walk next head l) (h' : Walk next head l') : l = l' := by
  cases l with
  | nil =>
    cases l' with
    | nil => rfl
    | cons a c => exact absurd (h'.2.1.symm.trans h) h'.1
  | cons a c =>
    cases l' with
    | nil => exact absurd (h.2.1.symm.trans h') h.1
    | cons a' c' =>
      obtain rfl : a = a' := h.2.1.symm.trans h'.2.1
      rw [h.2.2.unique h'.2.2]

theorem head_eq_zero_iff (h : Walk next head l) : head = 0 ↔ l = [] := by
  cases l with
  | nil => exact ⟨fun _ => rfl, fun _ => h⟩
  | cons a c => exact ⟨fun h0 => absurd (h.2.1.symm.trans h0) h.1, fun hl => (nomatch hl)⟩

theorem ne_zero (h : Walk next head l) : ∀ x ∈ l, x ≠ 0 := by
  cases l with
  | nil => simp
  | cons a c =>
    intro x hx
    rcases List.mem_cons.mp hx with rfl | hx
    · exact h.1
    · exact h.2.2.ne_null x hx

theorem nodup (h : Walk next head l) : l.Nodup := by
  cases l with
  | nil => exact List.nodup_nil
  | cons a c => exact h.2.2.nodup

/-- What is left once the head is taken. -/
theorem tail {a : Nat} {c : List Nat} (h : Walk next head (a :: c)) : Walk next (next a) c := by
  obtain ⟨-, -, hc⟩ := h
  cases c with
  | nil => exact hc
  | cons b c => exact ⟨hc.1, hc.2.1, hc.2.2⟩

end Walk

namespace CmdQueues

variable {δ : Type} {s : CmdQueues δ}

/-- `enqueue` puts the new message behind the others. -/
theorem contains_enqueue {q item : Nat} {l : List Nat} (h : (s.messageQueue q).Contains s.next l) (hi : item ≠ 0)
    (hnew : item ∉ l) (hend : s.next item = 0) :
    ((s.enqueue q item).messageQueue q).Contains (s.enqueue q item).next (l ++ [item]) := by
  cases l with
  | nil =>
    have h0 : (s.messageQueue q).head = 0 := h.walk
    have ht : s.enqueue q item = { s with messageQueue := update s.messageQueue q ⟨item, item⟩ } := if_pos h0
    have hq : (s.enqueue q item).messageQueue q = ⟨item, item⟩ := by
      rw [ht]
      exact Function.update_self ..
    have hn : (s.enqueue q item).next = s.next := by rw [ht]
    rw [hq, hn]
    constructor
    · exact ⟨hi, rfl, hend⟩
    · intro a c hl
      obtain ⟨rfl, rfl⟩ := List.cons_eq_cons.mp hl
      rfl
  | cons a c =>
    obtain ⟨ha, hhead, hc⟩ := h.walk
    have htail := h.tail a c rfl
    have hh0 : (s.messageQueue q).head ≠ 0 := hhead ▸ ha
    have ht0 : (s.messageQueue q).tail ≠ 0 := htail ▸ h.walk.ne_zero _ (lastFrom_mem a c)
    have ht : s.enqueue q item = { s with
        next := update s.next (s.messageQueue q).tail item
        messageQueue := update s.messageQueue q { s.messageQueue q with tail := item } } :=
      (if_neg hh0).trans (if_neg ht0)
    have hne : item ≠ lastFrom a c := fun heq => hnew (heq ▸ lastFrom_mem a c)
    have hq : (s.enqueue q item).messageQueue q = { s.messageQueue q with tail := item } := by
      rw [ht]
      exact Function.update_self ..
    have hn : (s.enqueue q item).next = update s.next (lastFrom a c) item := by rw [ht, htail]
    rw [hq, hn]
    constructor
    · refine ⟨ha, hhead, hc.append hi (Function.update_self ..) ?_ fun x _ hx => Function.update_of_ne hx ..⟩
      rw [Function.update_of_ne hne]
      exact hend
    · intro a' c' hl
      obtain ⟨rfl, rfl⟩ := List.cons_eq_cons.mp hl
      exact (Lib.lastFrom_concat ..).symm

/-- Every other queue is left as it was. -/
theorem contains_enqueue_other {q q' item : Nat} {l l' : List Nat} (h : (s.messageQueue q).Contains s.next l)
    (h' : (s.messageQueue q').Contains s.next l') (hq : q' ≠ q) (hdis : ∀ x ∈ l', x ∉ l) :
    ((s.enqueue q item).messageQueue q').Contains (s.enqueue q item).next l' := by
  simp only [enqueue]
  split_ifs with hh0 ht0
  · simp only [Function.update_of_ne hq]
    exact h'
  · cases l with
    | nil => exact absurd h.walk hh0
    | cons a c => exact absurd (h.tail a c rfl ▸ ht0) (h.walk.ne_zero _ (lastFrom_mem a c))
  · cases l with
    | nil => exact absurd h.walk hh0
    | cons a c =>
      have htail := h.tail a c rfl
      have hsame : ∀ x ∈ l', update s.next (s.messageQueue q).tail item x = s.next x := fun x hx => by
        refine Function.update_of_ne (fun heq => hdis x hx ?_) ..
        rw [heq, htail]
        exact lastFrom_mem a c
      simp only [Function.update_of_ne hq]
      exact ⟨h'.walk.congr hsame, h'.tail⟩

theorem frame_enqueue (s : CmdQueues δ) (q item : Nat) :
    (s.enqueue q item).live = s.live ∧ (s.enqueue q item).data = s.data ∧ (s.enqueue q item).liveQueue = s.liveQueue ∧
      (s.enqueue q item).inst = s.inst ∧ (s.enqueue q item).producer = s.producer ∧
      (s.enqueue q item).consumer = s.consumer ∧ (s.enqueue q item).posted = s.posted ∧
      (s.enqueue q item).dispatched = s.dispatched := by
  simp only [enqueue]
  split_ifs <;> simp

/-- The links that change lead out of messages of the queue. -/
theorem next_enqueue {q item x : Nat} {l : List Nat} (h : (s.messageQueue q).Contains s.next l) (hx : x ∉ l) :
    (s.enqueue q item).next x = s.next x := by
  simp only [enqueue]
  split_ifs with hh0 ht0
  · rfl
  · cases l with
    | nil => exact absurd h.walk hh0
    | cons a c => exact absurd (h.tail a c rfl ▸ ht0) (h.walk.ne_zero _ (lastFrom_mem a c))
  · cases l with
    | nil => exact absurd h.walk hh0
    | cons a c =>
      have hne : x ≠ (s.messageQueue q).tail := fun heq => hx (by rw [heq, h.tail a c rfl]; exact lastFrom_mem a c)
      exact Function.update_of_ne hne ..

end CmdQueues

/-! ## The invariant -/

/-- The message the consumer has taken and not yet dispatched. -/
def Consumer.held : Consumer → Option (QueueKind × Nat)
  | .holding _ _ k item => some (k, item)
  | .stoppedHolding k item => some (k, item)
  | _ => none

/-- The queues the consumer works with. -/
def Consumer.queues : Consumer → Option Nat × Option Nat
  | .gettingExternal _ qi => (some qi, none)
  | .loop qi qe | .waiting qi qe | .holding qi qe _ _ => (some qi, some qe)
  | _ => (none, none)

namespace CmdQueues

variable {δ : Type}

/-- The messages the consumer has taken, in the order it took them. -/
def taken (s : CmdQueues δ) : List (QueueKind × CmdQData δ) :=
  s.dispatched ++ s.consumer.held.toList.map fun (k, item) => (k, s.data item)

/-- Those of one queue. -/
def takenFrom (s : CmdQueues δ) (k : QueueKind) : List (CmdQData δ) :=
  (s.taken.filter fun x => x.1 = k).map (·.2)

/-- Where the messages are: the two queues hold those at `c`, and every other
message in use is in the hands of one thread. -/
structure Sound (s : CmdQueues δ) (c : QueueKind → List Nat) : Prop where
  instLive : ∀ k, s.inst k ≠ 0 → s.liveQueue (s.inst k) = true
  instNe : ∀ k k', s.inst k ≠ 0 → s.inst k = s.inst k' → k = k'
  found : ∀ p d q, s.producer p = .found d q → q = s.inst d.queue ∧ q ≠ 0
  made : ∀ p d q item, s.producer p = .made d q item →
    (q = s.inst d.queue ∧ q ≠ 0) ∧ item ≠ 0 ∧ s.live item = true ∧ s.next item = 0 ∧ s.data item = d ∧
      ∀ k, item ∉ c k
  madeInj : ∀ p p' d d' q q' item, s.producer p = .made d q item → s.producer p' = .made d' q' item → p = p'
  queues : (∀ qi, s.consumer.queues.1 = some qi → qi = s.inst .internal ∧ qi ≠ 0) ∧
    ∀ qe, s.consumer.queues.2 = some qe → qe = s.inst .external ∧ qe ≠ 0
  held : ∀ k item, s.consumer.held = some (k, item) → s.live item = true ∧ (∀ k', item ∉ c k') ∧
    ∀ p d q, s.producer p ≠ .made d q item
  contains : ∀ k, s.inst k ≠ 0 → (s.messageQueue (s.inst k)).Contains s.next (c k)
  empty : ∀ k, s.inst k = 0 → c k = []
  liveIn : ∀ k, ∀ x ∈ c k, s.live x = true
  disjoint : ∀ k k', k ≠ k' → ∀ x ∈ c k, x ∉ c k'
  order : ∀ k, s.takenFrom k ++ (c k).map s.data = s.posted k

theorem init_sound (blank : CmdQData δ) : (init blank).Sound fun _ => [] where
  instLive k h := absurd rfl h
  instNe k k' h _ := absurd rfl h
  found p d q h := by simp [init] at h
  made p d q item h := by simp [init] at h
  madeInj p p' d d' q q' item h := by simp [init] at h
  queues := by simp [init, Consumer.queues]
  held k item h := by simp [init, Consumer.held] at h
  contains k h := absurd rfl h
  empty k _ := rfl
  liveIn k x hx := by simp at hx
  disjoint k k' _ x hx := by simp at hx
  order k := by simp [init, takenFrom, taken, Consumer.held]

variable {s : CmdQueues δ} {c : QueueKind → List Nat}

/-! ## The producers -/

/-- A thread that holds no message goes on. -/
theorem Sound.setProducer (h : s.Sound c) (p : Nat) {x : Producer δ}
    (hfound : ∀ d q, x = .found d q → q = s.inst d.queue ∧ q ≠ 0) (hmade : ∀ d q item, x ≠ .made d q item) :
    (s.setProducer p x).Sound c := by
  have hprod : ∀ p' d q item, (s.setProducer p x).producer p' = .made d q item → s.producer p' = .made d q item := by
    intro p' d q item hp'
    by_cases hpp : p' = p
    · subst hpp
      simp only [CmdQueues.setProducer, Function.update_self] at hp'
      exact absurd hp' (hmade d q item)
    · simpa only [CmdQueues.setProducer, Function.update_of_ne hpp] using hp'
  refine { h with found := ?_, made := ?_, madeInj := ?_, held := ?_ }
  · intro p' d q hp'
    by_cases hpp : p' = p
    · subst hpp
      simp only [CmdQueues.setProducer, Function.update_self] at hp'
      exact hfound d q hp'
    · simp only [CmdQueues.setProducer, Function.update_of_ne hpp] at hp'
      exact h.found p' d q hp'
  · exact fun p' d q item hp' => h.made p' d q item (hprod _ _ _ _ hp')
  · exact fun p' p'' d d' q q' item hp' hp'' => h.madeInj p' p'' d d' q q' item (hprod _ _ _ _ hp') (hprod _ _ _ _ hp'')
  · intro k item hh
    obtain ⟨hlive, hno, hne⟩ := h.held k item hh
    exact ⟨hlive, hno, fun p' d q hp' => hne p' d q (hprod _ _ _ _ hp')⟩

theorem consumer_create {k : QueueKind} {addr : Nat} {t : CmdQueues δ} (ht : s.create k addr = some t) :
    t.consumer = s.consumer := by
  unfold CmdQueues.create at ht
  split_ifs at ht <;> obtain rfl := Option.some.inj ht <;> rfl

/-- A singleton is created where there was none. -/
theorem Sound.create (h : s.Sound c) {k : QueueKind} (hk : s.inst k = 0) {addr : Nat} {t : CmdQueues δ}
    (ht : s.create k addr = some t) : t.Sound c := by
  unfold CmdQueues.create at ht
  split_ifs at ht with h0 hl
  · obtain rfl := Option.some.inj ht
    have hinst : update s.inst k 0 = s.inst := by rw [← hk, Function.update_eq_self]
    rw [hinst]
    exact h
  · obtain rfl := Option.some.inj ht
    -- the other singleton is elsewhere, and nobody holds a pointer to this one
    have hother : ∀ k', s.inst k' ≠ 0 → k' ≠ k ∧ s.inst k' ≠ addr := fun k' hk' =>
      ⟨fun heq => hk' (heq ▸ hk), fun heq => hl (heq ▸ h.instLive k' hk')⟩
    have hkeep : ∀ k', s.inst k' ≠ 0 → update s.inst k addr k' = s.inst k' := fun k' hk' =>
      Function.update_of_ne (hother k' hk').1 ..
    refine { h with
      instLive := ?_, instNe := ?_, found := ?_, made := ?_, queues := ?_, contains := ?_, empty := ?_ }
    · intro k' hk'
      by_cases hkk : k' = k
      · subst hkk
        simp
      · simp only [Function.update_of_ne hkk] at hk' ⊢
        rw [Function.update_of_ne (hother k' hk').2]
        exact h.instLive k' hk'
    · intro k' k'' hk' heq
      by_cases hkk : k' = k <;> by_cases hkk' : k'' = k
      · rw [hkk, hkk']
      · subst hkk
        simp only [Function.update_self, Function.update_of_ne hkk'] at heq
        exact absurd heq.symm (hother k'' (heq ▸ h0)).2
      · subst hkk'
        simp only [Function.update_self, Function.update_of_ne hkk] at heq
        exact absurd heq (hother k' (heq ▸ h0)).2
      · simp only [Function.update_of_ne hkk, Function.update_of_ne hkk'] at hk' heq
        exact h.instNe k' k'' hk' heq
    · intro p d q hp
      obtain ⟨hq, hq0⟩ := h.found p d q hp
      exact ⟨hq.trans (hkeep d.queue (hq ▸ hq0)).symm, hq0⟩
    · intro p d q item hp
      obtain ⟨⟨hq, hq0⟩, hrest⟩ := h.made p d q item hp
      exact ⟨⟨hq.trans (hkeep d.queue (hq ▸ hq0)).symm, hq0⟩, hrest⟩
    · refine ⟨fun qi hqi => ?_, fun qe hqe => ?_⟩
      · obtain ⟨hq, hq0⟩ := h.queues.1 qi hqi
        exact ⟨hq.trans (hkeep _ (hq ▸ hq0)).symm, hq0⟩
      · obtain ⟨hq, hq0⟩ := h.queues.2 qe hqe
        exact ⟨hq.trans (hkeep _ (hq ▸ hq0)).symm, hq0⟩
    · intro k' hk'
      by_cases hkk : k' = k
      · subst hkk
        rw [h.empty k' hk]
        simp only [Function.update_self]
        exact ⟨rfl, fun a l hl => (nomatch hl)⟩
      · simp only [Function.update_of_ne hkk] at hk' ⊢
        rw [Function.update_of_ne (hother k' hk').2]
        exact h.contains k' hk'
    · intro k' hk'
      by_cases hkk : k' = k
      · subst hkk
        exact h.empty k' hk
      · simp only [Function.update_of_ne hkk] at hk'
        exact h.empty k' hk'

/-- A message is made. -/
theorem Sound.makeMessage (h : s.Sound c) {p : Nat} {d : CmdQData δ} {q addr : Nat} (hp : s.producer p = .found d q)
    (h0 : addr ≠ 0) (hl : s.live addr = false) : ((s.makeMessage d addr).setProducer p (.made d q addr)).Sound c := by
  obtain ⟨hq, hq0⟩ := h.found p d q hp
  -- nothing in use is at that address
  have hne : ∀ x, s.live x = true → x ≠ addr := fun x hx heq => by rw [heq, hl] at hx; cases hx
  have hc : ∀ k, addr ∉ c k := fun k hk => hne addr (h.liveIn k addr hk) rfl
  have hlive : ∀ x, s.live x = true → update s.live addr true x = true := fun x hx => by
    rw [Function.update_of_ne (hne x hx)]
    exact hx
  have hprod : ∀ p' d' q' item, update s.producer p (.made d q addr) p' = .made d' q' item →
      (p' = p ∧ d' = d ∧ q' = q ∧ item = addr) ∨ (p' ≠ p ∧ s.producer p' = .made d' q' item) := by
    intro p' d' q' item hp'
    by_cases hpp : p' = p
    · subst hpp
      simp only [Function.update_self, Producer.made.injEq] at hp'
      exact .inl ⟨rfl, hp'.1.symm, hp'.2.1.symm, hp'.2.2.symm⟩
    · rw [Function.update_of_ne hpp] at hp'
      exact .inr ⟨hpp, hp'⟩
  refine { h with found := ?_, made := ?_, madeInj := ?_, held := ?_, contains := ?_, liveIn := ?_, order := ?_ }
  · intro p' d' q' hp'
    by_cases hpp : p' = p
    · subst hpp
      simp [CmdQueues.setProducer] at hp'
    · simp only [CmdQueues.setProducer, Function.update_of_ne hpp] at hp'
      exact h.found p' d' q' hp'
  · intro p' d' q' item hp'
    obtain ⟨-, rfl, rfl, rfl⟩ | ⟨-, hp'⟩ := hprod p' d' q' item hp'
    · refine ⟨⟨hq, hq0⟩, h0, ?_, ?_, ?_, hc⟩ <;> simp [CmdQueues.makeMessage, CmdQueues.setProducer]
    · obtain ⟨hq', hi0, hil, hin, hid, hic⟩ := h.made p' d' q' item hp'
      have hia := hne item hil
      refine ⟨hq', hi0, hlive item hil, ?_, ?_, hic⟩
      · exact (Function.update_of_ne hia ..).trans hin
      · exact (Function.update_of_ne hia ..).trans hid
  · intro p₁ p₂ d₁ d₂ q₁ q₂ item hp₁ hp₂
    obtain ⟨rfl, -, -, hia⟩ | ⟨-, hold₁⟩ := hprod _ _ _ _ hp₁
    · obtain ⟨rfl, -⟩ | ⟨-, hold₂⟩ := hprod _ _ _ _ hp₂
      · rfl
      · exact absurd hia (hne _ (h.made _ _ _ _ hold₂).2.2.1)
    · obtain ⟨-, -, -, hia⟩ | ⟨-, hold₂⟩ := hprod _ _ _ _ hp₂
      · exact absurd hia (hne _ (h.made _ _ _ _ hold₁).2.2.1)
      · exact h.madeInj _ _ _ _ _ _ _ hold₁ hold₂
  · intro k item hh
    obtain ⟨hil, hic, hno⟩ := h.held k item hh
    refine ⟨hlive item hil, hic, fun p' d' q' hp' => ?_⟩
    obtain ⟨-, -, -, rfl⟩ | ⟨-, hp'⟩ := hprod _ _ _ _ hp'
    · exact hne _ hil rfl
    · exact hno p' d' q' hp'
  · intro k hk
    obtain ⟨hwalk, htail⟩ := h.contains k hk
    exact ⟨hwalk.congr fun x hx => Function.update_of_ne (hne x (h.liveIn k x hx)) .., htail⟩
  · exact fun k x hx => hlive x (h.liveIn k x hx)
  · intro k
    have hdata : ∀ x, s.live x = true → update s.data addr d x = s.data x := fun x hx =>
      Function.update_of_ne (hne x hx) ..
    have htaken : ((s.makeMessage d addr).setProducer p (.made d q addr)).taken = s.taken := by
      simp only [taken, CmdQueues.makeMessage, CmdQueues.setProducer]
      cases hh : s.consumer.held with
      | none => rfl
      | some x => simp [hdata x.2 (h.held x.1 x.2 hh).1]
    have hmap : (c k).map (update s.data addr d) = (c k).map s.data :=
      List.map_congr_left fun x hx => hdata x (h.liveIn k x hx)
    rw [takenFrom, htaken]
    exact (congrArg _ hmap).trans (h.order k)

/-- What `enqueue` and the end of `PostEvt` make of the state. -/
def enqueued (s : CmdQueues δ) (p : Nat) (d : CmdQData δ) (q item : Nat) : CmdQueues δ :=
  let t := s.enqueue q item
  { t with posted := update t.posted d.queue (t.posted d.queue ++ [d]) }.setProducer p .idle

/-- A message is enqueued behind the others of its queue. -/
theorem Sound.enqueued (h : s.Sound c) {p : Nat} {d : CmdQData δ} {q item : Nat} (hp : s.producer p = .made d q item) :
    (s.enqueued p d q item).Sound (update c d.queue (c d.queue ++ [item])) := by
  obtain ⟨⟨hq, hq0⟩, hi0, hil, hin, hid, hic⟩ := h.made p d q item hp
  have hk0 : s.inst d.queue ≠ 0 := hq ▸ hq0
  have hcont : (s.messageQueue q).Contains s.next (c d.queue) := hq ▸ h.contains d.queue hk0
  obtain ⟨flive, fdata, fliveQueue, finst, fprod, fcons, fposted, fdisp⟩ := frame_enqueue s q item
  have hprod : ∀ p' d' q' item', (s.enqueued p d q item).producer p' = .made d' q' item' →
      p' ≠ p ∧ s.producer p' = .made d' q' item' := by
    intro p' d' q' item' hp'
    by_cases hpp : p' = p
    · subst hpp
      simp [CmdQueues.enqueued, CmdQueues.setProducer] at hp'
    · simp only [CmdQueues.enqueued, CmdQueues.setProducer, Function.update_of_ne hpp, fprod] at hp'
      exact ⟨hpp, hp'⟩
  have hmem : ∀ k x, x ∈ update c d.queue (c d.queue ++ [item]) k ↔ x ∈ c k ∨ k = d.queue ∧ x = item := by
    intro k x
    by_cases hk : k = d.queue
    · subst hk
      simp
    · simp [hk]
  constructor
  · intro k hk
    simp only [CmdQueues.enqueued, CmdQueues.setProducer, finst, fliveQueue] at hk ⊢
    exact h.instLive k hk
  · intro k k' hk heq
    simp only [CmdQueues.enqueued, CmdQueues.setProducer, finst] at hk heq
    exact h.instNe k k' hk heq
  · intro p' d' q' hp'
    by_cases hpp : p' = p
    · subst hpp
      simp [CmdQueues.enqueued, CmdQueues.setProducer] at hp'
    · simp only [CmdQueues.enqueued, CmdQueues.setProducer, Function.update_of_ne hpp, fprod, finst] at hp' ⊢
      exact h.found p' d' q' hp'
  · intro p' d' q' item' hp'
    obtain ⟨hpp, hp'⟩ := hprod p' d' q' item' hp'
    obtain ⟨hq', hi0', hil', hin', hid', hic'⟩ := h.made p' d' q' item' hp'
    have hii : item' ≠ item := fun heq => hpp (h.madeInj _ _ _ _ _ _ _ (heq ▸ hp') hp)
    simp only [CmdQueues.enqueued, CmdQueues.setProducer, finst, flive, fdata]
    refine ⟨hq', hi0', hil', ?_, hid', fun k hk => ?_⟩
    · exact (next_enqueue hcont (hic' _)).trans hin'
    · rcases (hmem k item').mp hk with hk | ⟨-, hk⟩
      · exact hic' k hk
      · exact hii hk
  · intro p₁ p₂ d₁ d₂ q₁ q₂ item' hp₁ hp₂
    exact h.madeInj _ _ _ _ _ _ _ (hprod _ _ _ _ hp₁).2 (hprod _ _ _ _ hp₂).2
  · simp only [CmdQueues.enqueued, CmdQueues.setProducer, fcons, finst]
    exact h.queues
  · intro k item' hh
    simp only [CmdQueues.enqueued, CmdQueues.setProducer, fcons, flive] at hh ⊢
    obtain ⟨hil', hic', hno⟩ := h.held k item' hh
    refine ⟨hil', fun k' hk' => ?_, fun p' d' q' hp' => hno p' d' q' (hprod _ _ _ _ hp').2⟩
    rcases (hmem k' item').mp hk' with hk' | ⟨-, rfl⟩
    · exact hic' k' hk'
    · exact hno p d q hp
  · intro k hk
    simp only [CmdQueues.enqueued, CmdQueues.setProducer, finst] at hk ⊢
    by_cases hkd : k = d.queue
    · subst hkd
      rw [Function.update_self, ← hq]
      exact contains_enqueue hcont hi0 (hic _) hin
    · rw [Function.update_of_ne hkd]
      refine contains_enqueue_other hcont (h.contains k hk) ?_ (h.disjoint k d.queue hkd)
      exact fun heq => hkd (h.instNe k d.queue hk (heq.trans hq))
  · intro k hk
    simp only [CmdQueues.enqueued, CmdQueues.setProducer, finst] at hk
    by_cases hkd : k = d.queue
    · subst hkd
      exact absurd hk hk0
    · rw [Function.update_of_ne hkd]
      exact h.empty k hk
  · intro k x hx
    simp only [CmdQueues.enqueued, CmdQueues.setProducer, flive]
    rcases (hmem k x).mp hx with hx | ⟨-, rfl⟩
    · exact h.liveIn k x hx
    · exact hil
  · intro k k' hkk x hx hx'
    rcases (hmem k x).mp hx with hold | ⟨hk, hxi⟩
    · rcases (hmem k' x).mp hx' with hold' | ⟨-, hxi⟩
      · exact h.disjoint k k' hkk x hold hold'
      · exact hic k (hxi ▸ hold)
    · rcases (hmem k' x).mp hx' with hold' | ⟨hk', -⟩
      · exact hic k' (hxi ▸ hold')
      · exact hkk (hk.trans hk'.symm)
  · intro k
    have htaken : (s.enqueued p d q item).takenFrom k = s.takenFrom k := by
      simp only [takenFrom, taken, CmdQueues.enqueued, CmdQueues.setProducer, fcons, fdata, fdisp]
    rw [htaken]
    simp only [CmdQueues.enqueued, CmdQueues.setProducer, fdata, fposted]
    by_cases hkd : k = d.queue
    · subst hkd
      simp only [Function.update_self, List.map_append, List.map_singleton, hid]
      rw [← List.append_assoc, h.order]
    · simp only [Function.update_of_ne hkd]
      exact h.order k

/-! ## The consumer -/

/-- The consumer goes on without taking or dispatching anything. -/
theorem Sound.setConsumer (h : s.Sound c) {x : Consumer} (hheld : x.held = s.consumer.held)
    (hqueues : (∀ qi, x.queues.1 = some qi → qi = s.inst .internal ∧ qi ≠ 0) ∧
      ∀ qe, x.queues.2 = some qe → qe = s.inst .external ∧ qe ≠ 0) : ({ s with consumer := x } : CmdQueues δ).Sound c := by
  refine { h with queues := hqueues, held := ?_, order := ?_ }
  · intro k item hh
    exact h.held k item (hheld ▸ hh)
  · intro k
    have htaken : ({ s with consumer := x } : CmdQueues δ).takenFrom k = s.takenFrom k := by
      simp only [takenFrom, taken, hheld]
    rw [htaken]
    exact h.order k

/-- The head of a queue is taken out and held. -/
theorem Sound.dequeue (h : s.Sound c) {k : QueueKind} {q qi qe : Nat} (hq : q = s.inst k ∧ q ≠ 0)
    (hhead : (s.messageQueue q).head ≠ 0) (hnone : s.consumer.held = none)
    (hqi : qi = s.inst .internal ∧ qi ≠ 0) (hqe : qe = s.inst .external ∧ qe ≠ 0) :
    ∃ l, c k = (s.messageQueue q).head :: l ∧
      ({ s.dequeue q with consumer := .holding qi qe k (s.messageQueue q).head } : CmdQueues δ).Sound (update c k l) := by
  obtain ⟨hq, hq0⟩ := hq
  have hk0 : s.inst k ≠ 0 := hq ▸ hq0
  have hcont : (s.messageQueue q).Contains s.next (c k) := hq ▸ h.contains k hk0
  have hnd := hcont.walk.nodup
  cases hck : c k with
  | nil => exact absurd (hcont.walk.head_eq_zero_iff.mpr hck) hhead
  | cons a l =>
    rw [hck] at hcont hnd
    have ha : (s.messageQueue q).head = a := hcont.walk.2.1
    have hak : a ∈ c k := by rw [hck]; exact List.mem_cons_self
    have hsub : ∀ k', ∀ x ∈ update c k l k', x ∈ c k' := by
      intro k' x hx
      by_cases hkk : k' = k
      · subst hkk
        rw [Function.update_self] at hx
        rw [hck]
        exact List.mem_cons_of_mem a hx
      · rwa [Function.update_of_ne hkk] at hx
    have hanot : ∀ k', a ∉ update c k l k' := by
      intro k' hx
      by_cases hkk : k' = k
      · subst hkk
        rw [Function.update_self] at hx
        exact (List.nodup_cons.mp hnd).1 hx
      · rw [Function.update_of_ne hkk] at hx
        exact h.disjoint k' k hkk a hx hak
    refine ⟨l, by rw [ha], ?_⟩
    rw [ha]
    refine { h with made := ?_, queues := ?_, held := ?_, contains := ?_, empty := ?_, liveIn := ?_, disjoint := ?_, order := ?_ }
    · intro p d q' item hp
      obtain ⟨hq', hi0, hil, hin, hid, hic⟩ := h.made p d q' item hp
      exact ⟨hq', hi0, hil, hin, hid, fun k' hk' => hic k' (hsub k' _ hk')⟩
    · refine ⟨fun x hx => ?_, fun x hx => ?_⟩
      · obtain rfl := Option.some.inj hx
        exact hqi
      · obtain rfl := Option.some.inj hx
        exact hqe
    · intro k' item hh
      simp only [Consumer.held, Option.some.injEq, Prod.mk.injEq] at hh
      obtain ⟨rfl, rfl⟩ := hh
      exact ⟨h.liveIn k a hak, hanot, fun p d q' hp => (h.made p d q' a hp).2.2.2.2.2 k hak⟩
    · intro k' hk'
      by_cases hkk : k' = k
      · subst hkk
        rw [Function.update_self]
        simp only [CmdQueues.dequeue, ← hq, Function.update_self, ha]
        refine ⟨hcont.walk.tail, fun b m hl => ?_⟩
        rw [hcont.tail a l rfl, hl]
        rfl
      · rw [Function.update_of_ne hkk]
        have hne : s.inst k' ≠ q := fun heq => hkk (h.instNe k' k hk' (heq.trans hq))
        simp only [CmdQueues.dequeue, Function.update_of_ne hne]
        exact h.contains k' hk'
    · intro k' hk'
      by_cases hkk : k' = k
      · subst hkk
        exact absurd hk' hk0
      · rw [Function.update_of_ne hkk]
        exact h.empty k' hk'
    · exact fun k' x hx => h.liveIn k' x (hsub k' x hx)
    · exact fun k' k'' hkk x hx hx' => h.disjoint k' k'' hkk x (hsub k' x hx) (hsub k'' x hx')
    · intro k'
      have horder := h.order k'
      simp only [takenFrom, taken, hnone, Option.toList_none, List.map_nil, List.append_nil] at horder
      simp only [takenFrom, taken, Consumer.held, Option.toList_some, List.map_singleton, List.filter_append,
        List.map_append, CmdQueues.dequeue]
      by_cases hkk : k' = k
      · subst hkk
        rw [hck, List.map_cons] at horder
        simp only [Function.update_self, decide_true, List.filter_cons_of_pos, List.filter_nil, List.map_singleton,
          List.append_assoc, List.singleton_append]
        exact horder
      · have hkk' : k ≠ k' := Ne.symm hkk
        simp only [Function.update_of_ne hkk, hkk', decide_false, Bool.false_eq_true, not_false_eq_true,
          List.filter_cons_of_neg, List.filter_nil, List.map_nil, List.append_nil]
        exact horder

/-- The held message is dispatched and deleted. -/
theorem Sound.dispatch (h : s.Sound c) {qi qe : Nat} {k : QueueKind} {item : Nat}
    (hcons : s.consumer = .holding qi qe k item) :
    ({ s with
      consumer := .loop qi qe
      dispatched := s.dispatched ++ [(k, s.data item)]
      live := update s.live item false } : CmdQueues δ).Sound c := by
  have hheld : s.consumer.held = some (k, item) := by rw [hcons]; rfl
  have hq : s.consumer.queues = (some qi, some qe) := by rw [hcons]; rfl
  obtain ⟨hil, hic, hno⟩ := h.held k item hheld
  have hkeep : ∀ x, x ≠ item → s.live x = true → update s.live item false x = true := fun x hx hl => by
    rw [Function.update_of_ne hx]
    exact hl
  refine { h with made := ?_, queues := ?_, held := ?_, liveIn := ?_, order := ?_ }
  · intro p d q' item' hp
    obtain ⟨hq', hi0, hil', hrest⟩ := h.made p d q' item' hp
    exact ⟨hq', hi0, hkeep _ (fun heq => hno p d q' (heq ▸ hp)) hil', hrest⟩
  · have hqueues := h.queues
    rw [hq] at hqueues
    exact hqueues
  · intro k' item' hh
    simp [Consumer.held] at hh
  · exact fun k' x hx => hkeep x (fun heq => hic k' (heq ▸ hx)) (h.liveIn k' x hx)
  · intro k'
    have horder := h.order k'
    simp only [takenFrom, taken, hheld, Option.toList_some, List.map_singleton] at horder
    simpa only [takenFrom, taken, Consumer.held, Option.toList_none, List.map_nil, List.append_nil] using horder

/-! ## Steps and runs -/

/-- A thread is about to assign a singleton that exists: it found the pointer
`NULL` before another thread assigned it. -/
def CreatesTwice (s : CmdQueues δ) : QueueAct δ → Prop
  | .producer p _ =>
    match s.producer p with
    | .getting .create d => s.inst d.queue ≠ 0
    | _ => False
  | .consumer _ =>
    match s.consumer with
    | .gettingInternal .create => s.inst .internal ≠ 0
    | .gettingExternal .create _ => s.inst .external ≠ 0
    | _ => False
  | _ => False

instance (s : CmdQueues δ) (a : QueueAct δ) : Decidable (s.CreatesTwice a) := by
  unfold CreatesTwice
  cases a with
  | producer p addr => simp only; split <;> infer_instance
  | consumer addr => simp only; split <;> infer_instance
  | postEvt p d => exact isFalse id
  | producerFails p => exact isFalse id
  | consumerFails => exact isFalse id

/-- A step that creates no singleton twice. -/
def Unraced (s : CmdQueues δ) (a : QueueAct δ) (t : CmdQueues δ) : Prop := s.step a = some t ∧ ¬ s.CreatesTwice a

theorem Sound.stepProducer (h : s.Sound c) {p addr : Nat} {t : CmdQueues δ} (hrace : ¬ s.CreatesTwice (.producer p addr))
    (ht : s.stepProducer p addr = some t) : ∃ c', t.Sound c' := by
  unfold CmdQueues.stepProducer at ht
  cases hp : s.producer p with
  | idle => simp [hp] at ht
  | getting g d =>
    cases g with
    | check =>
      simp only [hp, Option.some.injEq] at ht
      subst ht
      exact ⟨c, h.setProducer p (fun _ _ hx => (nomatch hx)) fun _ _ _ hx => (nomatch hx)⟩
    | create =>
      simp only [hp, Option.map_eq_some_iff] at ht
      obtain ⟨u, hu, rfl⟩ := ht
      have hk : s.inst d.queue = 0 := by
        by_contra hk
        exact hrace (by simpa only [CreatesTwice, hp] using hk)
      refine ⟨c, (h.create hk hu).setProducer p ?_ ?_⟩
      · intro d' q hx
        split_ifs at hx
      · intro d' q item hx
        split_ifs at hx
    | fetch =>
      simp only [hp, Option.some.injEq] at ht
      subst ht
      refine ⟨c, h.setProducer p ?_ ?_⟩
      · intro d' q hx
        split_ifs at hx with h0
        simp only [Producer.found.injEq] at hx
        obtain ⟨rfl, rfl⟩ := hx
        exact ⟨rfl, h0⟩
      · intro d' q item hx
        split_ifs at hx
  | found d q =>
    simp only [hp] at ht
    split_ifs at ht with h0 hl
    · obtain rfl := Option.some.inj ht
      exact ⟨c, h.setProducer p (fun _ _ hx => (nomatch hx)) fun _ _ _ hx => (nomatch hx)⟩
    · obtain rfl := Option.some.inj ht
      exact ⟨c, h.makeMessage hp h0 (by simpa using hl)⟩
  | made d q item =>
    simp only [hp, Option.some.injEq] at ht
    subst ht
    exact ⟨_, h.enqueued hp⟩

theorem Sound.take (h : s.Sound c) {qi qe : Nat} (hcons : s.consumer = .loop qi qe) : ∃ c', (s.take qi qe).Sound c' := by
  have hq : s.consumer.queues = (some qi, some qe) := by rw [hcons]; rfl
  have hnone : s.consumer.held = none := by rw [hcons]; rfl
  have hqueues := h.queues
  rw [hq] at hqueues
  have hqi := hqueues.1 qi rfl
  have hqe := hqueues.2 qe rfl
  unfold CmdQueues.take
  split_ifs with hi he
  · obtain ⟨l, -, hs⟩ := h.dequeue hqi hi hnone hqi hqe
    exact ⟨_, hs⟩
  · obtain ⟨l, -, hs⟩ := h.dequeue hqe he hnone hqi hqe
    exact ⟨_, hs⟩
  · exact ⟨c, h.setConsumer hnone.symm hqueues⟩

theorem Sound.stepConsumer (h : s.Sound c) {addr : Nat} {t : CmdQueues δ} (hrace : ¬ s.CreatesTwice (.consumer addr))
    (ht : s.stepConsumer addr = some t) : ∃ c', t.Sound c' := by
  unfold CmdQueues.stepConsumer at ht
  have hqueues := h.queues
  cases hcons : s.consumer with
  | gettingInternal g =>
    have hheld : s.consumer.held = none := by rw [hcons]; rfl
    cases g with
    | check =>
      simp only [hcons, Option.some.injEq] at ht
      subst ht
      exact ⟨c, h.setConsumer hheld.symm ⟨fun _ hx => (nomatch hx), fun _ hx => (nomatch hx)⟩⟩
    | create =>
      simp only [hcons, Option.map_eq_some_iff] at ht
      obtain ⟨u, hu, rfl⟩ := ht
      have hk : s.inst .internal = 0 := by
        by_contra hk
        exact hrace (by simpa only [CreatesTwice, hcons] using hk)
      have hu' := h.create hk hu
      have hheld' : u.consumer.held = none := by rw [← hheld, consumer_create hu]
      refine ⟨c, hu'.setConsumer ?_ ⟨fun _ hx => ?_, fun _ hx => ?_⟩⟩
      · rw [hheld']; split <;> rfl
      · split at hx <;> cases hx
      · split at hx <;> cases hx
    | fetch =>
      simp only [hcons, Option.some.injEq] at ht
      subst ht
      refine ⟨c, h.setConsumer ?_ ⟨fun qi hx => ?_, fun _ hx => ?_⟩⟩
      · rw [hheld]; split <;> rfl
      · split at hx
        · cases hx
        next h0 =>
          obtain rfl := Option.some.inj hx
          exact ⟨rfl, h0⟩
      · split at hx <;> cases hx
  | gettingExternal g qi =>
    have hheld : s.consumer.held = none := by rw [hcons]; rfl
    rw [hcons] at hqueues
    cases g with
    | check =>
      simp only [hcons, Option.some.injEq] at ht
      subst ht
      exact ⟨c, h.setConsumer hheld.symm hqueues⟩
    | create =>
      simp only [hcons, Option.map_eq_some_iff] at ht
      obtain ⟨u, hu, rfl⟩ := ht
      have hk : s.inst .external = 0 := by
        by_contra hk
        exact hrace (by simpa only [CreatesTwice, hcons] using hk)
      have hu' := h.create hk hu
      have hheld' : u.consumer.held = none := by rw [← hheld, consumer_create hu]
      have hqueues' := hu'.queues
      rw [consumer_create hu, hcons] at hqueues'
      refine ⟨c, hu'.setConsumer ?_ ⟨fun q hx => ?_, fun q hx => ?_⟩⟩
      · rw [hheld']; split <;> rfl
      · split at hx
        · cases hx
        · exact hqueues'.1 q hx
      · split at hx <;> cases hx
    | fetch =>
      simp only [hcons, Option.some.injEq] at ht
      subst ht
      refine ⟨c, h.setConsumer ?_ ⟨fun q hx => ?_, fun q hx => ?_⟩⟩
      · rw [hheld]; split <;> rfl
      · split at hx
        · cases hx
        · exact hqueues.1 q hx
      · split at hx
        · cases hx
        next h0 =>
          obtain rfl := Option.some.inj hx
          exact ⟨rfl, h0⟩
  | loop qi qe =>
    simp only [hcons, Option.some.injEq] at ht
    subst ht
    exact h.take hcons
  | waiting qi qe =>
    simp only [hcons, Option.some.injEq] at ht
    subst ht
    rw [hcons] at hqueues
    exact ⟨c, h.setConsumer (by rw [hcons]; rfl) hqueues⟩
  | holding qi qe k item =>
    simp only [hcons, Option.some.injEq] at ht
    subst ht
    exact ⟨c, h.dispatch hcons⟩
  | stopped => simp [hcons] at ht
  | stoppedHolding k item => simp [hcons] at ht

/-- **A step that creates no singleton twice keeps every message in its place.** -/
theorem Sound.step (h : s.Sound c) {a : QueueAct δ} {t : CmdQueues δ} (ht : Unraced s a t) : ∃ c', t.Sound c' := by
  obtain ⟨ht, hrace⟩ := ht
  cases a with
  | postEvt p d =>
    simp only [CmdQueues.step] at ht
    split at ht
    · obtain rfl := Option.some.inj ht
      exact ⟨c, h.setProducer p (fun _ _ hx => (nomatch hx)) fun _ _ _ hx => (nomatch hx)⟩
    · cases ht
  | producer p addr => exact h.stepProducer hrace ht
  | producerFails p =>
    simp only [CmdQueues.step, failProducer] at ht
    split at ht
    · obtain rfl := Option.some.inj ht
      exact ⟨c, h.setProducer p (fun _ _ hx => (nomatch hx)) fun _ _ _ hx => (nomatch hx)⟩
    · cases ht
  | consumer addr => exact h.stepConsumer hrace ht
  | consumerFails =>
    simp only [CmdQueues.step, failConsumer] at ht
    cases hcons : s.consumer with
    | loop qi qe =>
      simp only [hcons, Option.some.injEq] at ht
      subst ht
      exact ⟨c, h.setConsumer (by rw [hcons]; rfl) ⟨fun _ hx => (nomatch hx), fun _ hx => (nomatch hx)⟩⟩
    | waiting qi qe =>
      simp only [hcons, Option.some.injEq] at ht
      subst ht
      exact ⟨c, h.setConsumer (by rw [hcons]; rfl) ⟨fun _ hx => (nomatch hx), fun _ hx => (nomatch hx)⟩⟩
    | holding qi qe k item =>
      simp only [hcons, Option.some.injEq] at ht
      subst ht
      exact ⟨c, h.setConsumer (by rw [hcons]; rfl) ⟨fun _ hx => (nomatch hx), fun _ hx => (nomatch hx)⟩⟩
    | gettingInternal g => simp [hcons] at ht
    | gettingExternal g qi => simp [hcons] at ht
    | stopped => simp [hcons] at ht
    | stoppedHolding k item => simp [hcons] at ht

/-- What is queued: the messages at the addresses of `l`, from the `Head` of the
singleton on, or none if there is no singleton. -/
def Queued (s : CmdQueues δ) (k : QueueKind) (l : List Nat) : Prop :=
  (s.inst k = 0 → l = []) ∧ (s.inst k ≠ 0 → Walk s.next (s.messageQueue (s.inst k)).head l)

theorem Sound.queued (h : s.Sound c) (k : QueueKind) : s.Queued k (c k) :=
  ⟨h.empty k, fun hk => (h.contains k hk).walk⟩

theorem Queued.unique {k : QueueKind} {l l' : List Nat} (h : s.Queued k l) (h' : s.Queued k l') : l = l' := by
  by_cases hk : s.inst k = 0
  · rw [h.1 hk, h'.1 hk]
  · exact (h.2 hk).unique (h'.2 hk)

/-- A message that is taken in this step comes from the loop. -/
theorem take_of_held {a : QueueAct δ} {t : CmdQueues δ} {k : QueueKind} {item : Nat} (ht : s.step a = some t)
    (hs : s.consumer.held = none) (hh : t.consumer.held = some (k, item)) :
    ∃ qi qe, s.consumer = .loop qi qe ∧ t = s.take qi qe := by
  have hprod : t.consumer = s.consumer → ∃ qi qe, s.consumer = .loop qi qe ∧ t = s.take qi qe := fun heq => by
    rw [heq, hs] at hh
    cases hh
  cases a with
  | postEvt p d =>
    simp only [CmdQueues.step] at ht
    split at ht
    · obtain rfl := Option.some.inj ht
      exact hprod rfl
    · cases ht
  | producer p addr =>
    refine hprod ?_
    simp only [CmdQueues.step, CmdQueues.stepProducer] at ht
    cases hp : s.producer p with
    | idle => simp [hp] at ht
    | getting g d =>
      cases g with
      | create =>
        simp only [hp, Option.map_eq_some_iff] at ht
        obtain ⟨u, hu, rfl⟩ := ht
        exact (show u.consumer = s.consumer from consumer_create hu)
      | check => simp only [hp, Option.some.injEq] at ht; subst ht; rfl
      | fetch => simp only [hp, Option.some.injEq] at ht; subst ht; rfl
    | found d q =>
      simp only [hp] at ht
      split_ifs at ht <;> obtain rfl := Option.some.inj ht <;> rfl
    | made d q item =>
      simp only [hp, Option.some.injEq] at ht
      subst ht
      exact (frame_enqueue s q item).2.2.2.2.2.1
  | producerFails p =>
    simp only [CmdQueues.step, failProducer] at ht
    split at ht
    · obtain rfl := Option.some.inj ht
      exact hprod rfl
    · cases ht
  | consumer addr =>
    simp only [CmdQueues.step, CmdQueues.stepConsumer] at ht
    cases hcons : s.consumer with
    | loop qi qe =>
      simp only [hcons, Option.some.injEq] at ht
      exact ⟨qi, qe, rfl, ht.symm⟩
    | gettingInternal g =>
      exfalso
      cases g <;> simp only [hcons, Option.some.injEq, Option.map_eq_some_iff] at ht
      · subst ht; cases hh
      · obtain ⟨u, -, rfl⟩ := ht
        simp only at hh; split at hh <;> cases hh
      · subst ht
        simp only at hh; split at hh <;> cases hh
    | gettingExternal g qi =>
      exfalso
      cases g <;> simp only [hcons, Option.some.injEq, Option.map_eq_some_iff] at ht
      · subst ht; cases hh
      · obtain ⟨u, -, rfl⟩ := ht
        simp only at hh; split at hh <;> cases hh
      · subst ht
        simp only at hh; split at hh <;> cases hh
    | waiting qi qe =>
      simp only [hcons, Option.some.injEq] at ht
      subst ht
      cases hh
    | holding qi qe k item => rw [hcons] at hs; cases hs
    | stopped => simp [hcons] at ht
    | stoppedHolding k item => rw [hcons] at hs; cases hs
  | consumerFails =>
    exfalso
    simp only [CmdQueues.step, failConsumer] at ht
    cases hcons : s.consumer with
    | loop qi qe => simp only [hcons, Option.some.injEq] at ht; subst ht; cases hh
    | waiting qi qe => simp only [hcons, Option.some.injEq] at ht; subst ht; cases hh
    | holding qi qe k item => rw [hcons] at hs; cases hs
    | gettingInternal g => simp [hcons] at ht
    | gettingExternal g qi => simp [hcons] at ht
    | stopped => simp [hcons] at ht
    | stoppedHolding k item => simp [hcons] at ht

/-- **An external message is taken only when the internal queue is empty.** -/
theorem Sound.external (h : s.Sound c) {a : QueueAct δ} {t : CmdQueues δ} {item : Nat} (ht : s.step a = some t)
    (hs : s.consumer.held = none) (hh : t.consumer.held = some (.external, item)) : s.Queued .internal [] := by
  obtain ⟨qi, qe, hcons, rfl⟩ := take_of_held ht hs hh
  have hqueues := h.queues
  rw [hcons] at hqueues
  obtain ⟨rfl, hqi0⟩ := hqueues.1 qi rfl
  unfold CmdQueues.take at hh
  split_ifs at hh with hi he
  · cases hh
  · have hwalk := (h.contains .internal hqi0).walk
    have hempty := hwalk.head_eq_zero_iff.mp (by simpa using hi)
    exact hempty ▸ h.queued .internal
  · cases hh

/-- **The command queues over every run** in which no singleton is created
twice: what was taken from a queue and what is queued in it is what was posted
to it, in order; and the next step takes an external message only if the
internal queue is empty. -/
theorem queues_run {blank : CmdQData δ} {acts : List (QueueAct δ)} {s : CmdQueues δ}
    (h : Run Unraced (init blank) acts s) :
    (∀ k, ∃ l, s.Queued k l ∧ s.takenFrom k ++ l.map s.data = s.posted k) ∧
      ∀ a t item, s.step a = some t → s.consumer.held = none → t.consumer.held = some (.external, item) →
        s.Queued .internal [] := by
  have hsound : ∃ c, s.Sound c := by
    refine h.invariant (fun s => ∃ c, s.Sound c) (fun s a t ht hs => ?_) ⟨fun _ => [], init_sound blank⟩
    obtain ⟨c, hc⟩ := hs
    exact hc.step ht
  obtain ⟨c, hc⟩ := hsound
  exact ⟨fun k => ⟨c k, hc.queued k, hc.order k⟩, fun a t item ht hs hh => hc.external ht hs hh⟩

/-- Acts one after the other, as long as they are possible and create no singleton twice. -/
def runUnraced (s : CmdQueues δ) : List (QueueAct δ) → Option (CmdQueues δ)
  | [] => some s
  | a :: acts => if s.CreatesTwice a then none else (s.step a).bind fun t => t.runUnraced acts

theorem run_runUnraced {acts : List (QueueAct δ)} {t : CmdQueues δ} (h : s.runUnraced acts = some t) :
    Run Unraced s acts t := by
  induction acts generalizing s with
  | nil =>
    obtain rfl := Option.some.inj h
    exact .nil s
  | cons a acts ih =>
    simp only [runUnraced] at h
    split_ifs at h with hrace
    obtain ⟨u, hu, ht⟩ := Option.bind_eq_some_iff.mp h
    exact .cons ⟨hu, hrace⟩ (ih ht)

/-- `IPA_LINK_UP_EVENT`, an external event. -/
def sampleEvent : CmdQData Unit := ⟨3, ()⟩

/-- The consumer creates the two queues; a message is posted, taken and dispatched. -/
def sampleActs : List (QueueAct Unit) :=
  [.consumer 0, .consumer 1, .consumer 0, .consumer 0, .consumer 2, .consumer 0,
    .postEvt 0 sampleEvent, .producer 0 0, .producer 0 0, .producer 0 7, .producer 0 0,
    .consumer 0, .consumer 0]

theorem queues_run_sample :
    let s := ((init sampleEvent).runUnraced sampleActs).get (by decide)
    ∃ l, s.Queued .external l ∧ s.takenFrom .external ++ l.map s.data = s.posted .external :=
  (queues_run (run_runUnraced (Option.some_get _).symm)).1 .external

/-- Two threads find the pointer of the external queue `NULL`; the first enqueues
its message into the queue it created, which the second has replaced. -/
def racedActs : List (QueueAct Unit) :=
  [.postEvt 1 sampleEvent, .postEvt 2 sampleEvent, .producer 1 0, .producer 2 0,
    .producer 1 1, .producer 1 0, .producer 2 2, .producer 1 7, .producer 1 0,
    .consumer 0, .consumer 3, .consumer 0, .consumer 0, .consumer 0, .consumer 0]

theorem queues_raced :
    ∃ s, racedActs.foldlM CmdQueues.step (init sampleEvent) = some s ∧ s.posted .external = [sampleEvent] ∧
      ¬ ∃ l, s.Queued .external l ∧ s.takenFrom .external ++ l.map s.data = s.posted .external := by
  refine ⟨(racedActs.foldlM CmdQueues.step (init sampleEvent)).get (by decide), (Option.some_get _).symm, rfl, ?_⟩
  rintro ⟨l, hl, horder⟩
  have hempty : Queued ((racedActs.foldlM CmdQueues.step (init sampleEvent)).get (by decide)) .external [] :=
    ⟨fun _ => rfl, fun _ => rfl⟩
  obtain rfl := hl.unique hempty
  exact absurd horder (by decide)

end CmdQueues
end HiaeCommon
