/-
The client lists of the LAN-to-LAN controller: what its handlers make of them
depends on the lists themselves and on the cached events, and not on the rules
that are installed for the clients.
-/
import HiaeCommon.Lib.Run
import HiaeCommon.Ipacm.LanToLanOwned

namespace HiaeCommon

open Function (update)
open Lib (Handles Ledger)

/-- The interfaces that are up, the cached events, and the MACs in the list of each interface. -/
structure ClientLists where
  mIface : List LanId
  cached : List (LanId × MacAddr)
  lists : LanId → List MacAddr

namespace ClientLists

/-- A client comes to a list, unless it is there or there is no room. -/
def addClient (ms : List MacAddr) (mac : MacAddr) : List MacAddr :=
  if ms.contains mac then ms else if ms.length = maxNumClient then ms else mac :: ms

theorem addClient_known {ms : List MacAddr} {mac : MacAddr} (h : mac ∈ ms) : addClient ms mac = ms := if_pos (List.contains_iff_mem.2 h)

theorem addClient_full {ms : List MacAddr} {mac : MacAddr} (hfull : ms.length = maxNumClient) : addClient ms mac = ms := by
  unfold addClient
  rw [if_pos hfull, ite_self]

theorem addClient_new {ms : List MacAddr} {mac : MacAddr} (hnew : mac ∉ ms) (hroom : ms.length ≠ maxNumClient) :
    addClient ms mac = mac :: ms := by
  unfold addClient
  rw [if_neg fun h => hnew (List.contains_iff_mem.1 h), if_neg hroom]

/-- What the controller does, as far as the clients go. -/
def step (props : LanId → LanProps) (b : ClientLists) : EthBridgeEvt → ClientLists
  | .ifaceUp a _ _ =>
    if a ∈ b.mIface then b
    else if b.mIface.length = maxNumIface then b
    else if (props a).hasProps = false then b
    else if (props a).hdrL2Type = .none ∨ (props a).hdrL2Type = .max then b
    else
      { mIface := a :: b.mIface
        cached := b.cached.filter (·.1 ≠ a)
        lists := update b.lists a (((b.cached.filter (·.1 = a)).map (·.2)).foldl addClient []) }
  | .ifaceDown a =>
    if a ∈ b.mIface then { b with mIface := b.mIface.erase a, lists := update b.lists a [] }
    else { b with cached := b.cached.filter (·.1 ≠ a) }
  | .clientAdd a mac _ =>
    if a ∈ b.mIface then { b with lists := update b.lists a (addClient (b.lists a) mac) }
    else if b.cached.length < maxNumCachedClientAddEvent then { b with cached := (a, mac) :: b.cached }
    else b
  | .clientDel a mac => if a ∈ b.mIface then { b with lists := update b.lists a ((b.lists a).erase mac) } else b

end ClientLists

/-! ## The lists of one interface -/

namespace LanIface

variable {H : Handles} {props : LanId → LanProps} {this : LanId} {f : LanIface} {d : BridgeDrv}

theorem addClientRtRule_macAddr (peer : PeerIfaceInfo) (c : ClientInfo) :
    (f.addClientRtRule H props this peer c d).1.macAddr = c.macAddr := by
  unfold addClientRtRule
  dsimp only
  split <;> rfl

theorem delClientRtRule_macAddr (peer : PeerIfaceInfo) (c : ClientInfo) :
    (delClientRtRule props this peer c d).1.macAddr = c.macAddr := by
  unfold delClientRtRule
  dsimp only
  split <;> rfl

theorem clearAllRtRule_macs (peer : PeerIfaceInfo) : (f.clearAllRtRule props this peer d).1.macs = f.macs := by
  unfold clearAllRtRule
  split
  · exact Ledger.each_map _ _ _ fun c _ d => delClientRtRule_macAddr peer c
  · rfl

theorem handleNewIfaceUp_macs (forFlt forRt : PerIp String) (peer : LanId) :
    (f.handleNewIfaceUp H props this forFlt forRt peer d).1.macs = f.macs := by
  unfold handleNewIfaceUp addHdrProcCtx
  dsimp only
  split <;> rfl

theorem addClientRtRuleForNewIface_macs : (f.addClientRtRuleForNewIface H props this d).1.macs = f.macs := by
  unfold addClientRtRuleForNewIface
  split
  · rfl
  next peer _ _ =>
    split
    · exact Ledger.each_map _ _ _ fun c _ d => addClientRtRule_macAddr peer c
    · rfl

end LanIface

/-! ## The handlers -/

namespace LanToLan

variable {H : Handles} {props : LanId → LanProps} {s : LanToLan} {this : LanId} {mac : MacAddr}

/-- What the state says of clients. -/
def clientLists (s : LanToLan) : ClientLists where
  mIface := s.mIface
  cached := s.cachedClientAddEvent
  lists a := (s.obj a).macs

theorem clientLists_setObj (s : LanToLan) (a : LanId) (f : LanIface × BridgeDrv) :
    (s.setObj a f).clientLists = { s.clientLists with lists := update s.clientLists.lists a f.1.macs } := by
  unfold clientLists setObj
  congr 1
  funext b
  exact Function.apply_update (fun _ => LanIface.macs) s.obj a f.1 b

/-- An interface whose list stays the same. -/
theorem clientLists_setObj_same {a : LanId} {f : LanIface × BridgeDrv} (h : f.1.macs = (s.obj a).macs) :
    (s.setObj a f).clientLists = s.clientLists := by
  rw [clientLists_setObj, h]
  exact congrArg _ (Function.update_eq_self a _)

theorem clientLists_foldl {α : Type} {f : LanToLan → α → LanToLan} (hf : ∀ s x, (f s x).clientLists = s.clientLists) (l : List α) :
    (l.foldl f s).clientLists = s.clientLists := by
  induction l generalizing s with
  | nil => rfl
  | cons x l ih => rw [List.foldl_cons, ih, hf]

theorem clientAddPeer_same (c : ClientInfo) (flag : List HdrL2Type) (p : PeerIfaceInfo) :
    (clientAddPeer H props this mac (s, c, flag) p).1.clientLists = s.clientLists ∧
      (clientAddPeer H props this mac (s, c, flag) p).2.1.macAddr = c.macAddr := by
  unfold clientAddPeer
  dsimp only
  split
  · exact ⟨clientLists_setObj_same rfl, rfl⟩
  · exact ⟨clientLists_setObj_same rfl, LanIface.addClientRtRule_macAddr p c⟩

theorem clientAddPeer_foldl_same (ps : List PeerIfaceInfo) : ∀ {s : LanToLan} (c : ClientInfo) (flag : List HdrL2Type),
    (ps.foldl (clientAddPeer H props this mac) (s, c, flag)).1.clientLists = s.clientLists ∧
      (ps.foldl (clientAddPeer H props this mac) (s, c, flag)).2.1.macAddr = c.macAddr := by
  induction ps with
  | nil => exact fun _ _ => ⟨rfl, rfl⟩
  | cons p ps ih =>
    intro s c flag
    obtain ⟨hlists, hmac⟩ := @clientAddPeer_same H props s this mac c flag p
    obtain ⟨hlists', hmac'⟩ := ih (s := (clientAddPeer H props this mac (s, c, flag) p).1)
      (clientAddPeer H props this mac (s, c, flag) p).2.1 (clientAddPeer H props this mac (s, c, flag) p).2.2
    exact ⟨hlists'.trans hlists, hmac'.trans hmac⟩

theorem ifaceClientAdd_lists (stack : ClientInfo) : (s.ifaceClientAdd H props this mac stack).clientLists =
    { s.clientLists with lists := update s.clientLists.lists this (ClientLists.addClient (s.clientLists.lists this) mac) } := by
  have hknown : ((s.obj this).clientInfo.any fun c => c.macAddr = mac) = true ↔ mac ∈ (s.obj this).macs := by
    simp [LanIface.macs]
  have hlen : (s.obj this).clientInfo.length = (s.obj this).macs.length := (List.length_map _).symm
  have hsame : ∀ ms, ms = (s.obj this).macs → s.clientLists = { s.clientLists with lists := update s.clientLists.lists this ms } := by
    rintro _ rfl
    exact (congrArg _ (Function.update_eq_self this _)).symm
  simp only [ifaceClientAdd]
  split
  next hany => exact hsame _ (ClientLists.addClient_known (hknown.1 hany))
  next hany =>
  have hnew : mac ∉ s.clientLists.lists this := fun hm => hany (hknown.2 hm)
  split
  next hfull => exact hsame _ (ClientLists.addClient_full (hlen ▸ hfull))
  next hroom =>
  have hadd : ClientLists.addClient (s.clientLists.lists this) mac = mac :: s.clientLists.lists this :=
    ClientLists.addClient_new hnew (hlen ▸ hroom)
  generalize hr : (if (s.obj this).supportInter then
      (s.obj this).peerIfaceInfo.foldl (clientAddPeer H props this mac) (s, { stack with macAddr := mac }, [])
    else (s, { stack with macAddr := mac }, [])) = r
  have hloop : r.1.clientLists = s.clientLists ∧ r.2.1.macAddr = mac := by
    rw [← hr]
    split
    · exact clientAddPeer_foldl_same _ _ _
    · exact ⟨rfl, rfl⟩
  obtain ⟨s', c, flag⟩ := r
  obtain ⟨hlists, hmac⟩ := hloop
  have hmacs : ∀ c' : ClientInfo, c'.macAddr = mac → c'.macAddr :: (s'.obj this).macs = mac :: s.clientLists.lists this := by
    rintro c' rfl
    rw [← hlists]
    rfl
  rw [hadd, ← hlists]
  dsimp only
  split
  · rw [clientLists_setObj]
    exact congrArg (fun ms => { s'.clientLists with lists := update s'.clientLists.lists this ms })
      (hlists ▸ hmacs _ ((LanIface.addClientRtRule_macAddr _ c).trans hmac))
  · rw [clientLists_setObj]
    exact congrArg (fun ms => { s'.clientLists with lists := update s'.clientLists.lists this ms }) (hlists ▸ hmacs c hmac)

theorem clientDelPeer_same (c : ClientInfo) (flag : List HdrL2Type) (p : PeerIfaceInfo) :
    (clientDelPeer props this (s, c, flag) p).1.clientLists = s.clientLists := by
  unfold clientDelPeer
  dsimp only
  split
  · exact clientLists_setObj_same rfl
  · exact clientLists_setObj_same rfl

theorem clientDelPeer_foldl_same (ps : List PeerIfaceInfo) : ∀ {s : LanToLan} (c : ClientInfo) (flag : List HdrL2Type),
    (ps.foldl (clientDelPeer props this) (s, c, flag)).1.clientLists = s.clientLists := by
  induction ps with
  | nil => exact fun _ _ => rfl
  | cons p ps ih =>
    intro s c flag
    have hstep := @clientDelPeer_same props s this c flag p
    exact (ih (s := (clientDelPeer props this (s, c, flag) p).1) _ _).trans hstep

theorem macs_eraseP (f : LanIface) (mac : MacAddr) :
    (f.clientInfo.eraseP fun c => c.macAddr = mac).map (·.macAddr) = f.macs.erase mac := by
  rw [List.erase_eq_eraseP, LanIface.macs, List.eraseP_map]
  congr 1
  refine congrArg (fun q => List.eraseP q f.clientInfo) (funext fun c => ?_)
  exact (decide_eq_decide.2 eq_comm).trans (beq_eq_decide mac c.macAddr).symm

theorem ifaceClientDel_lists : (s.ifaceClientDel props this mac).clientLists =
    { s.clientLists with lists := update s.clientLists.lists this ((s.clientLists.lists this).erase mac) } := by
  simp only [ifaceClientDel]
  split
  next hnone =>
    have hnot : mac ∉ s.clientLists.lists this := by
      intro hm
      obtain ⟨c, hc, rfl⟩ := List.mem_map.1 hm
      simpa using List.find?_eq_none.1 hnone c hc
    rw [List.erase_of_not_mem hnot]
    exact (congrArg _ (Function.update_eq_self this _)).symm
  next c _ =>
  generalize hr : (if (s.obj this).supportInter then (s.obj this).peerIfaceInfo.foldl (clientDelPeer props this) (s, c, [])
    else (s, c, [])) = r
  have hlists : r.1.clientLists = s.clientLists := by
    rw [← hr]
    split
    · exact clientDelPeer_foldl_same _ _ _
    · rfl
  obtain ⟨s', c, flag⟩ := r
  rw [← hlists]
  dsimp only
  split <;>
  · rw [clientLists_setObj]
    exact congrArg (fun ms => { s'.clientLists with lists := update s'.clientLists.lists this ms }) (macs_eraseP (s'.obj this) mac)

theorem macs_eq_of_lists {s' : LanToLan} (h : s'.clientLists = s.clientLists) (a : LanId) : (s'.obj a).macs = (s.obj a).macs :=
  congrFun (congrArg ClientLists.lists h) a

theorem downPeer_same (p : PeerIfaceInfo) : (downPeer props this s p).clientLists = s.clientLists := by
  have hset : ∀ (g f : LanIface × BridgeDrv), g.1.macs = (s.obj p.peer).macs → f.1.macs = (s.obj this).macs →
      ((s.setObj p.peer g).setObj this f).clientLists = s.clientLists := by
    intro g f hg hf
    have hpeer := clientLists_setObj_same hg
    rw [clientLists_setObj_same (hf.trans (macs_eq_of_lists hpeer this).symm), hpeer]
  unfold downPeer
  dsimp only
  split
  · exact hset _ _ rfl (LanIface.clearAllRtRule_macs p)
  next q _ => exact hset _ _ (LanIface.clearAllRtRule_macs q) (LanIface.clearAllRtRule_macs p)

theorem ifaceDown_lists :
    (s.ifaceDown props this).clientLists = { s.clientLists with lists := update s.clientLists.lists this [] } := by
  simp only [ifaceDown]
  generalize hr : (if (s.obj this).supportInter then
      ((s.obj this).peerIfaceInfo.foldl (downPeer props this) s).setObj this
        ({ ((s.obj this).peerIfaceInfo.foldl (downPeer props this) s).obj this with peerIfaceInfo := [] },
          ((s.obj this).peerIfaceInfo.foldl (downPeer props this) s).drv)
    else s) = s'
  have hlists : s'.clientLists = s.clientLists := by
    rw [← hr]
    split
    · exact (clientLists_setObj_same rfl).trans (clientLists_foldl (fun s p => downPeer_same p) _)
    · rfl
  rw [← hlists]
  split <;>
  · rw [clientLists_setObj]
    rfl

theorem newIfacePeer_same (exist : LanId) : (newIfacePeer H props this s exist).clientLists = s.clientLists := by
  unfold newIfacePeer
  dsimp only
  rw [clientLists_setObj_same LanIface.addClientRtRuleForNewIface_macs, clientLists_setObj_same (LanIface.handleNewIfaceUp_macs _ _ _),
    clientLists_setObj_same (LanIface.handleNewIfaceUp_macs _ _ _)]

theorem addAllInterFltRule_same (ip : IpIndex) : (s.addAllInterFltRule H this ip).clientLists = s.clientLists :=
  clientLists_setObj_same rfl

theorem handleClientAdd_lists (stack : ClientInfo) :
    (s.handleClientAdd H props this mac stack).clientLists = s.clientLists.step props (.clientAdd this mac stack) := by
  unfold handleClientAdd ClientLists.step
  split
  next hup => exact (ifaceClientAdd_lists stack).trans (if_pos hup).symm
  next hup =>
    split
    next hroom => exact ((if_neg hup).trans (if_pos hroom)).symm
    next hfull => exact ((if_neg hup).trans (if_neg hfull)).symm

/-- The cached events of an interface that is up now, one after the other. -/
theorem cachedClientAdd_lists (stack : MacAddr → ClientInfo) (l : List (LanId × MacAddr)) : ∀ {s : LanToLan}, this ∈ s.mIface →
    (∀ e ∈ l, e.1 = this) → (l.foldl (fun s e => s.handleClientAdd H props e.1 e.2 (stack e.2)) s).clientLists =
      { s.clientLists with
        lists := update s.clientLists.lists this ((l.map (·.2)).foldl ClientLists.addClient (s.clientLists.lists this)) } := by
  induction l with
  | nil => exact fun _ _ => (congrArg _ (Function.update_eq_self this _)).symm
  | cons e l ih =>
    obtain ⟨a, mac⟩ := e
    intro s hup hall
    obtain rfl : a = this := hall (a, mac) (List.mem_cons_self ..)
    have hhead := (@handleClientAdd_lists H props s a mac (stack mac)).trans (if_pos hup)
    have hmIface : (s.handleClientAdd H props a mac (stack mac)).mIface = s.mIface := congrArg ClientLists.mIface hhead
    have hup' : a ∈ (s.handleClientAdd H props a mac (stack mac)).mIface := by rwa [hmIface]
    rw [List.foldl_cons, ih hup' fun e he => hall e (List.mem_cons_of_mem _ he), hhead]
    simp

theorem handleCachedClientAddEvent_lists (hup : this ∈ s.mIface) (stack : MacAddr → ClientInfo) :
    (s.handleCachedClientAddEvent H props this stack).clientLists =
      { s.clientLists with
        cached := s.clientLists.cached.filter (·.1 ≠ this)
        lists := update s.clientLists.lists this
          (((s.clientLists.cached.filter (·.1 = this)).map (·.2)).foldl ClientLists.addClient (s.clientLists.lists this)) } := by
  have hall : ∀ e ∈ s.cachedClientAddEvent.filter (·.1 = this), e.1 = this := fun e he => by simpa using (List.mem_filter.1 he).2
  have hrun := @cachedClientAdd_lists H props this stack _ s hup hall
  have hcached := congrArg ClientLists.cached hrun
  unfold handleCachedClientAddEvent
  dsimp only
  generalize (s.cachedClientAddEvent.filter (·.1 = this)).foldl _ s = s' at hrun hcached ⊢
  exact congrArg (fun b : ClientLists => { b with cached := b.cached.filter (·.1 ≠ this) }) hrun

theorem join_same (c : Bool) (peers : List LanId) (ip : IpIndex) :
    (if c then (peers.foldl (newIfacePeer H props this) s).addAllInterFltRule H this ip else s).clientLists = s.clientLists := by
  split
  · exact (addAllInterFltRule_same ip).trans (clientLists_foldl (fun _ b => newIfacePeer_same b) _)
  · rfl

theorem intra_same (c : Bool) :
    (if c then s.setObj this ((s.obj this).handleIntraInterfaceInfo H props this s.drv) else s).clientLists = s.clientLists := by
  split
  · exact clientLists_setObj_same rfl
  · rfl

/-- The list of a new interface holds the clients that were waiting for it. -/
theorem newIface_lists {s' : LanToLan} {stack : MacAddr → ClientInfo}
    (h : s'.clientLists = { s.clientLists with mIface := this :: s.mIface, lists := update s.clientLists.lists this [] }) :
    (s'.handleCachedClientAddEvent H props this stack).clientLists =
      { mIface := this :: s.mIface
        cached := s.clientLists.cached.filter (·.1 ≠ this)
        lists := update s.clientLists.lists this
          (((s.clientLists.cached.filter (·.1 = this)).map (·.2)).foldl ClientLists.addClient []) } := by
  have hmIface : s'.mIface = this :: s.mIface := congrArg ClientLists.mIface h
  rw [handleCachedClientAddEvent_lists (hmIface ▸ List.mem_cons_self ..), h]
  simp

theorem handleIfaceUp_lists (ip : IpIndex) (stack : MacAddr → ClientInfo) :
    (s.handleIfaceUp H props this ip stack).clientLists = s.clientLists.step props (.ifaceUp this ip stack) := by
  rw [ClientLists.step, show s.clientLists.mIface = s.mIface from rfl]
  unfold handleIfaceUp
  split
  · dsimp only
    split
    · rfl
    have hip := clientLists_setObj_same (s := s) (a := this)
      (f := ({ s.obj this with isIpAddrAssigned := (s.obj this).isIpAddrAssigned.set ip true }, s.drv)) rfl
    have hinter : (if (s.obj this).supportInter then
        addAllInterFltRule H
          (s.setObj this ({ s.obj this with isIpAddrAssigned := (s.obj this).isIpAddrAssigned.set ip true }, s.drv)) this ip
        else s.setObj this ({ s.obj this with isIpAddrAssigned := (s.obj this).isIpAddrAssigned.set ip true }, s.drv)).clientLists =
        s.clientLists := by
      split
      · exact (addAllInterFltRule_same ip).trans hip
      · exact hip
    split
    · exact (clientLists_setObj_same rfl).trans hinter
    · exact hinter
  split
  · rfl
  split
  · rfl
  split
  · rfl
  refine newIface_lists ((intra_same _).trans ((join_same _ _ ip).trans ?_))
  unfold clientLists
  congr 1
  funext b
  exact Function.apply_update (fun _ => LanIface.macs) s.obj this _ b

theorem step_lists (e : EthBridgeEvt) : (s.step H props e).clientLists = s.clientLists.step props e := by
  cases e with
  | ifaceUp iface ip stack => exact handleIfaceUp_lists ip stack
  | ifaceDown iface =>
    unfold step handleIfaceDown ClientLists.step
    rw [show s.clientLists.mIface = s.mIface from rfl]
    dsimp only
    split
    · exact congrArg (fun b : ClientLists => { b with mIface := b.mIface.erase iface }) ifaceDown_lists
    · rfl
  | clientAdd iface mac stack => exact handleClientAdd_lists stack
  | clientDel iface mac =>
    unfold step handleClientDel ClientLists.step
    rw [show s.clientLists.mIface = s.mIface from rfl]
    dsimp only
    split
    · exact ifaceClientDel_lists
    · rfl

end LanToLan

/-! ## The events so far -/

namespace ClientLists

/-- A client add that finds no room, in the list or in the cache. -/
def drops (b : ClientLists) : EthBridgeEvt → Bool
  | .clientAdd a mac _ =>
    if a ∈ b.mIface then !(b.lists a).contains mac && decide ((b.lists a).length = maxNumClient)
    else decide (maxNumCachedClientAddEvent ≤ b.cached.length)
  | _ => false

/-- No client goes while an add of it waits for its interface. -/
def NoneWaiting (b : ClientLists) : EthBridgeEvt → Prop
  | .clientDel a mac => (a, mac) ∉ b.cached
  | _ => True

/-- What an event says of a client of an interface. An interface that goes down has no clients any more. -/
def tells (a : LanId) (mac : MacAddr) : EthBridgeEvt → Option Bool
  | .clientAdd a' mac' _ => if a' = a ∧ mac' = mac then some true else none
  | .clientDel a' mac' => if a' = a ∧ mac' = mac then some false else none
  | .ifaceDown a' => if a' = a then some false else none
  | .ifaceUp _ _ _ => none

/-- The lists, and the cache for interfaces that are not up, hold the clients of `A`. -/
structure Follows (A : LanId → MacAddr → Bool) (b : ClientLists) : Prop where
  upNodup : b.mIface.Nodup
  nodup : ∀ a, (b.lists a).Nodup
  listed : ∀ a ∈ b.mIface, ∀ mac, mac ∈ b.lists a ↔ A a mac = true
  waiting : ∀ a ∉ b.mIface, ∀ mac, (a, mac) ∈ b.cached ↔ A a mac = true
  notUp : ∀ a ∈ b.mIface, ∀ mac, (a, mac) ∉ b.cached
  room : b.cached.length ≤ maxNumCachedClientAddEvent

variable {A : LanId → MacAddr → Bool} {b : ClientLists} {props : LanId → LanProps} {ms : List MacAddr} {mac : MacAddr}

theorem addClient_nodup (h : ms.Nodup) (mac : MacAddr) : (addClient ms mac).Nodup := by
  by_cases hnew : mac ∈ ms
  · rwa [addClient_known hnew]
  by_cases hfull : ms.length = maxNumClient
  · rwa [addClient_full hfull]
  · rw [addClient_new hnew hfull]
    exact List.nodup_cons.2 ⟨hnew, h⟩

theorem mem_addClient (h : mac ∈ ms ∨ ms.length ≠ maxNumClient) {m : MacAddr} : m ∈ addClient ms mac ↔ m = mac ∨ m ∈ ms := by
  by_cases hnew : mac ∈ ms
  · rw [addClient_known hnew]
    exact ⟨.inr, fun hor => hor.elim (fun heq => heq ▸ hnew) id⟩
  · rw [addClient_new hnew (h.resolve_left hnew), List.mem_cons]

theorem length_addClient (ms : List MacAddr) (mac : MacAddr) : (addClient ms mac).length ≤ ms.length + 1 := by
  unfold addClient
  split
  · omega
  split
  · omega
  · rw [List.length_cons]

/-- As many clients as a list has room for. -/
theorem mem_foldl_addClient (l : List MacAddr) {m : MacAddr} : ∀ {ms : List MacAddr}, ms.length + l.length ≤ maxNumClient →
    (m ∈ l.foldl addClient ms ↔ m ∈ ms ∨ m ∈ l) := by
  induction l with
  | nil => simp
  | cons mac l ih =>
    intro ms hlen
    rw [List.length_cons] at hlen
    have hroom : ms.length ≠ maxNumClient := by omega
    have hlen' := length_addClient ms mac
    rw [List.foldl_cons, ih (by omega), mem_addClient (.inr hroom), List.mem_cons]
    tauto

theorem foldl_addClient_nodup (l : List MacAddr) : ∀ {ms : List MacAddr}, ms.Nodup → (l.foldl addClient ms).Nodup := by
  induction l with
  | nil => exact fun h => h
  | cons mac l ih => exact fun h => ih (addClient_nodup h mac)

theorem Follows.init : Follows (fun _ _ => false) ⟨[], [], fun _ => []⟩ where
  upNodup := List.nodup_nil
  nodup _ := List.nodup_nil
  listed _ ha := absurd ha List.not_mem_nil
  waiting _ _ _ := by simp
  notUp _ _ _ := List.not_mem_nil
  room := Nat.zero_le _

/-- A step that changes the list of one interface, with what it says of its clients. -/
theorem Follows.relist (h : Follows A b) {a : LanId} (ha : a ∈ b.mIface) {l : List MacAddr} (hl : l.Nodup)
    {A' : LanId → MacAddr → Bool} (hself : ∀ m, m ∈ l ↔ A' a m = true) (hother : ∀ a' ≠ a, A' a' = A a') :
    Follows A' { b with lists := update b.lists a l } where
  upNodup := h.upNodup
  nodup a' := by
    by_cases hne : a' = a
    · subst hne
      simpa using hl
    · simpa [Function.update_of_ne hne] using h.nodup a'
  listed a' ha' m := by
    by_cases hne : a' = a
    · subst hne
      simpa using hself m
    · simpa [Function.update_of_ne hne, hother a' hne] using h.listed a' ha' m
  waiting a' ha' m := by
    have hne : a' ≠ a := fun heq => ha' (heq ▸ ha)
    rw [hother a' hne]
    exact h.waiting a' ha' m
  notUp := h.notUp
  room := h.room

/-- What the clients of `A` are after an event. -/
def told (A : LanId → MacAddr → Bool) (e : EthBridgeEvt) (a : LanId) (mac : MacAddr) : Bool := (tells a mac e).getD (A a mac)

theorem told_self {a : LanId} {mac : MacAddr} {e : EthBridgeEvt} {v : Bool} (h : tells a mac e = some v) : told A e a mac = v := by
  rw [told, h]
  rfl

theorem told_other {a : LanId} {mac : MacAddr} {e : EthBridgeEvt} (h : tells a mac e = none) : told A e a mac = A a mac := by
  rw [told, h]
  rfl

theorem Follows.clientAdd (h : Follows A b) (a : LanId) (mac : MacAddr) (stack : ClientInfo)
    (hroom : b.drops (.clientAdd a mac stack) = false) : Follows (told A (.clientAdd a mac stack)) (b.step props (.clientAdd a mac stack)) := by
  have hself : told A (.clientAdd a mac stack) a mac = true := told_self (if_pos ⟨rfl, rfl⟩)
  have hmac : ∀ m, m ≠ mac → told A (.clientAdd a mac stack) a m = A a m := fun m hne => told_other (if_neg fun h => hne h.2.symm)
  have hother : ∀ a', a' ≠ a → told A (.clientAdd a mac stack) a' = A a' := fun a' hne =>
    funext fun m => told_other (if_neg fun h => hne h.1.symm)
  by_cases ha : a ∈ b.mIface
  · rw [step, if_pos ha]
    rw [drops, if_pos ha] at hroom
    refine h.relist ha (addClient_nodup (h.nodup a) mac) (fun m => ?_) hother
    rw [mem_addClient (by simpa [or_iff_not_imp_left] using hroom)]
    by_cases hm : m = mac
    · subst hm
      simp [hself]
    · rw [hmac m hm, ← h.listed a ha m]
      simp [hm]
  · rw [drops, if_neg ha] at hroom
    have hlt : b.cached.length < maxNumCachedClientAddEvent := Nat.lt_of_not_le (of_decide_eq_false hroom)
    rw [step, if_neg ha, if_pos hlt]
    exact {
      upNodup := h.upNodup
      nodup := h.nodup
      listed := fun a' ha' m => by
        rw [hother a' fun heq => ha (heq ▸ ha')]
        exact h.listed a' ha' m
      waiting := fun a' ha' m => by
        by_cases hne : a' = a
        · subst hne
          by_cases hm : m = mac
          · subst hm
            simp [hself]
          · rw [hmac m hm, ← h.waiting a' ha m]
            simp [hm]
        · rw [hother a' hne, ← h.waiting a' ha' m]
          simp [hne]
      notUp := fun a' ha' m hm => by
        rcases List.mem_cons.1 hm with heq | hm
        · obtain ⟨rfl, -⟩ := Prod.mk.inj heq
          exact ha ha'
        · exact h.notUp a' ha' m hm
      room := hlt }

theorem Follows.clientDel (h : Follows A b) (a : LanId) (mac : MacAddr) (hw : (a, mac) ∉ b.cached) :
    Follows (told A (.clientDel a mac)) (b.step props (.clientDel a mac)) := by
  have hself : told A (.clientDel a mac) a mac = false := told_self (if_pos ⟨rfl, rfl⟩)
  have hmac : ∀ m, m ≠ mac → told A (.clientDel a mac) a m = A a m := fun m hne => told_other (if_neg fun h => hne h.2.symm)
  have hother : ∀ a', a' ≠ a → told A (.clientDel a mac) a' = A a' := fun a' hne =>
    funext fun m => told_other (if_neg fun h => hne h.1.symm)
  by_cases ha : a ∈ b.mIface
  · rw [step, if_pos ha]
    refine h.relist ha ((h.nodup a).erase mac) (fun m => ?_) hother
    rw [(h.nodup a).mem_erase_iff]
    by_cases hm : m = mac
    · subst hm
      simp [hself]
    · rw [hmac m hm, ← h.listed a ha m]
      simp [hm]
  · rw [step, if_neg ha]
    have hsame : told A (.clientDel a mac) = A := by
      funext a' m
      by_cases hne : a' = a
      · subst hne
        by_cases hm : m = mac
        · subst hm
          rw [hself]
          exact (Bool.eq_false_iff.2 fun ht => hw ((h.waiting a' ha m).2 ht)).symm
        · exact hmac m hm
      · rw [hother a' hne]
    rwa [hsame]

theorem Follows.ifaceDown (h : Follows A b) (a : LanId) : Follows (told A (.ifaceDown a)) (b.step props (.ifaceDown a)) := by
  have hself : ∀ m, told A (.ifaceDown a) a m = false := fun m => told_self (if_pos rfl)
  have hother : ∀ a', a' ≠ a → told A (.ifaceDown a) a' = A a' := fun a' hne => funext fun m => told_other (if_neg (Ne.symm hne))
  by_cases ha : a ∈ b.mIface
  · have hdown : Follows (told A (.ifaceDown a)) { b with lists := update b.lists a [] } :=
      h.relist ha List.nodup_nil (fun m => by simp [hself]) hother
    rw [step, if_pos ha]
    exact {
      upNodup := h.upNodup.erase a
      nodup := hdown.nodup
      listed := fun a' ha' => hdown.listed a' (List.mem_of_mem_erase ha')
      waiting := fun a' ha' m => by
        by_cases hne : a' = a
        · subst hne
          exact iff_of_false (h.notUp a' ha m) (by simp [hself])
        · exact hdown.waiting a' (fun hm => ha' ((List.mem_erase_of_ne hne).2 hm)) m
      notUp := fun a' ha' => h.notUp a' (List.mem_of_mem_erase ha')
      room := h.room }
  · rw [step, if_neg ha]
    exact {
      upNodup := h.upNodup
      nodup := h.nodup
      listed := fun a' ha' m => by
        rw [hother a' fun heq => ha (heq ▸ ha')]
        exact h.listed a' ha' m
      waiting := fun a' ha' m => by
        by_cases hne : a' = a
        · subst hne
          simp [hself]
        · rw [hother a' hne, ← h.waiting a' ha' m]
          simp [hne]
      notUp := fun a' ha' m hm => h.notUp a' ha' m (List.mem_filter.1 hm).1
      room := (List.length_filter_le _ _).trans h.room }

/-- An interface that comes up takes the clients that wait for it; there is room for all of them. -/
theorem Follows.ifaceUp (h : Follows A b) (a : LanId) (ip : IpIndex) (stack : MacAddr → ClientInfo) :
    Follows A (b.step props (.ifaceUp a ip stack)) := by
  rw [step]
  split_ifs with ha
  · exact h
  · exact h
  · exact h
  · exact h
  have hlen : ([] : List MacAddr).length + ((b.cached.filter (·.1 = a)).map (·.2)).length ≤ maxNumClient := by
    have hfilter := List.length_filter_le (fun e : LanId × MacAddr => decide (e.1 = a)) b.cached
    have hroom := h.room
    rw [List.length_map, List.length_nil]
    unfold maxNumCachedClientAddEvent at hroom
    unfold maxNumClient
    omega
  exact {
    upNodup := List.nodup_cons.2 ⟨ha, h.upNodup⟩
    nodup := fun a' => by
      by_cases hne : a' = a
      · subst hne
        simpa using foldl_addClient_nodup _ List.nodup_nil
      · simpa [Function.update_of_ne hne] using h.nodup a'
    listed := fun a' ha' m => by
      by_cases hne : a' = a
      · subst hne
        rw [← h.waiting a' ha m]
        simp [mem_foldl_addClient _ hlen]
      · have hup : a' ∈ b.mIface := (List.mem_cons.1 ha').resolve_left hne
        simpa [Function.update_of_ne hne] using h.listed a' hup m
    waiting := fun a' ha' m => by
      rw [List.mem_cons, not_or] at ha'
      rw [← h.waiting a' ha'.2 m]
      simp [ha'.1]
    notUp := fun a' ha' m hm => by
      obtain ⟨hin, hne⟩ := List.mem_filter.1 hm
      rcases List.mem_cons.1 ha' with rfl | hup
      · simp at hne
      · exact h.notUp a' hup m hin
    room := (List.length_filter_le _ _).trans h.room }

theorem step_of_drops {e : EthBridgeEvt} (h : b.drops e = true) : b.step props e = b := by
  cases e with
  | clientAdd a mac stack =>
    by_cases ha : a ∈ b.mIface
    · rw [drops, if_pos ha] at h
      rw [step, if_pos ha, addClient_full (of_decide_eq_true (Bool.and_elim_right h)), Function.update_eq_self]
    · rw [drops, if_neg ha] at h
      rw [step, if_neg ha, if_neg (Nat.not_lt_of_le (of_decide_eq_true h))]
  | ifaceUp => cases h
  | ifaceDown => cases h
  | clientDel => cases h

theorem Follows.step (h : Follows A b) {e : EthBridgeEvt} (hw : b.NoneWaiting e) (hd : b.drops e = false) :
    Follows (told A e) (b.step props e) := by
  cases e with
  | ifaceUp a ip stack => exact h.ifaceUp a ip stack
  | ifaceDown a => exact h.ifaceDown a
  | clientAdd a mac stack => exact h.clientAdd a mac stack hd
  | clientDel a mac => exact h.clientDel a mac hw

end ClientLists

namespace LanToLan

variable (H : Handles) (props : LanId → LanProps)

/-- The events of a run without the client adds that found no room. -/
def heard : LanToLan → List EthBridgeEvt → List EthBridgeEvt
  | _, [] => []
  | s, e :: es => if s.clientLists.drops e then heard (s.step H props e) es else e :: heard (s.step H props e) es

theorem heard_concat (es : List EthBridgeEvt) (e : EthBridgeEvt) : ∀ s, heard H props s (es ++ [e]) =
    heard H props s es ++ if (es.foldl (step H props) s).clientLists.drops e then [] else [e] := by
  induction es with
  | nil => exact fun s => rfl
  | cons x es ih =>
    intro s
    rw [List.cons_append, heard, heard, ih, List.foldl_cons]
    split
    · rfl
    · rfl

/-- What the events that were heard say of the clients. -/
def clientsOf (es : List EthBridgeEvt) (a : LanId) (mac : MacAddr) : Bool := Lib.latest (ClientLists.tells a mac) (heard H props init es)

theorem clientsOf_concat (es : List EthBridgeEvt) (e : EthBridgeEvt) : clientsOf H props (es ++ [e]) =
    if (run H props es).clientLists.drops e then clientsOf H props es else ClientLists.told (clientsOf H props es) e := by
  funext a mac
  unfold clientsOf
  rw [heard_concat]
  unfold run
  split
  · rw [List.append_nil]
  · rw [Lib.latest_concat]
    rfl

/-- **The client lists follow the events**: where no client goes while an add of it waits for its interface, the list of
every interface that is up holds, each once, the clients whose latest event is an add; the interface going down counts
as the client going, and an add that found no room does not count. -/
theorem client_lists_follow {es : List EthBridgeEvt}
    (h : Lib.EachStep (step H props) (fun s e => s.clientLists.NoneWaiting e) init es) {a : LanId} (ha : a ∈ (run H props es).mIface) :
    ((run H props es).obj a).macs.Nodup ∧
      ∀ mac, mac ∈ ((run H props es).obj a).macs ↔ Lib.latest (ClientLists.tells a mac) (heard H props init es) = true := by
  have hfollows : (run H props es) = run H props es ∧ ClientLists.Follows (clientsOf H props es) (run H props es).clientLists := by
    refine h.history (I := fun es s => s = run H props es ∧ ClientLists.Follows (clientsOf H props es) s.clientLists) ?_
      ⟨rfl, ClientLists.Follows.init⟩ (List.prefix_refl es)
    rintro es s e ⟨rfl, hs⟩ hw
    have hrun : (run H props es).step H props e = run H props (es ++ [e]) := by
      simp [run]
    refine ⟨hrun, ?_⟩
    rw [step_lists, clientsOf_concat]
    by_cases hd : (run H props es).clientLists.drops e = true
    · rw [if_pos hd, ClientLists.step_of_drops hd]
      exact hs
    · rw [if_neg hd]
      exact hs.step hw (by simpa using hd)
  exact ⟨hfollows.2.nodup a, hfollows.2.listed a ha⟩

/-- An Ethernet interface. -/
def sampleProps : LanProps := ⟨.ethernetII, true, false, false, ⟨1, 1⟩⟩

def sampleClient : ClientInfo := ⟨0, fun _ => ⟨[], []⟩, ⟨[], []⟩⟩

/-- A client waits for its interface, is taken over, and goes. -/
def sampleStay : List EthBridgeEvt := [.clientAdd 0 5 sampleClient, .ifaceUp 0 .v4 fun _ => sampleClient, .clientDel 0 5]

theorem sampleStay_noneWaiting :
    Lib.EachStep (step .next fun _ => sampleProps) (fun s e => s.clientLists.NoneWaiting e) init sampleStay := by
  refine ⟨trivial, trivial, ?_, trivial⟩
  show ((0 : LanId), (5 : MacAddr)) ∉ _
  decide

theorem client_lists_follow_sample : ((run .next (fun _ => sampleProps) sampleStay).obj 0).macs.Nodup ∧
    ∀ mac, mac ∈ ((run .next (fun _ => sampleProps) sampleStay).obj 0).macs ↔
      Lib.latest (ClientLists.tells 0 mac) (heard .next (fun _ => sampleProps) init sampleStay) = true :=
  client_lists_follow .next (fun _ => sampleProps) sampleStay_noneWaiting (by decide)

/-- Eleven clients come before their interface. -/
def sampleEvents : List EthBridgeEvt :=
  (List.range 11).map (fun m => .clientAdd 0 (BitVec.ofNat 48 m) sampleClient) ++ [.ifaceUp 0 .v4 fun _ => sampleClient]

/-- The cache has no room for the last of them. -/
theorem not_client_lists_follow_sample : ¬∀ es, ∀ a ∈ (run .next (fun _ => sampleProps) es).mIface,
    ((run .next (fun _ => sampleProps) es).obj a).macs.Nodup ∧
      ∀ mac, mac ∈ ((run .next (fun _ => sampleProps) es).obj a).macs ↔ Lib.latest (ClientLists.tells a mac) es = true := by
  intro h
  have hlast := (h sampleEvents 0 (by decide)).2 10
  exact absurd (hlast.2 (by decide)) (by decide)

end LanToLan
end HiaeCommon
