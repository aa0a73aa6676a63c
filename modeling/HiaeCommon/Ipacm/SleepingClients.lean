/-
A sleeping client of an access point, in its table and in the NAT cache
(`ipacm/src/IPACM_Wlan.cpp`, `IPACM_ConntrackListener.cpp`): while its latest
power event is a power save it has no routing rule, and no connection of its
IPv4 address is in the hardware.

The access point keeps a flag in the record, `NatApp` a list of addresses, and
they are only told of each other's changes. So the runs that keep the promise
are those in which the flag stays with its client (`Wlan.KeepsAsleep`), the
address finds room in the list and nobody else's event takes it off
(`Undisturbed`), and no table comes back to a listed client's connections.
-/
import HiaeCommon.Ipacm.ConnectionClose
import HiaeCommon.Ipacm.NatPowerSave
import HiaeCommon.Ipacm.WlanSleep
import HiaeCommon.Ipacm.WlanTable

namespace HiaeCommon

open Outside (AllSucceed)
open NatApp (ListedOnce PowerSave WakesNobody)

variable {δ : Type} {D : IpaDriver} {env : NatEnv δ}

namespace ConntrackListener

variable {l : ConntrackListener δ}

/-- The event takes an address off the power-save list. -/
def Unlists (l : ConntrackListener δ) (ip : BitVec 32) (e : ListenerEvt) : Prop :=
  l.Calls (.resetPwrSaveIf ip) e ∨ l.Calls (.delEntriesOnClntDiscon ip) e

/-- The event asks for a hardware table. -/
def OpensTable : ListenerEvt → Prop
  | .wanUp _ _ | .natCall (.addTable _) => True
  | _ => False

theorem Calls.opensTable {op : NatOp} {e : ListenerEvt} {ip : BitVec 32} (hc : l.Calls op e) (hop : op = .addTable ip) : OpensTable e := by
  subst hop
  cases e <;> simp_all [Calls, OpensTable, NatOp.IsEntry]
  subst hc
  trivial

theorem step_mem_pwrSaveIfs {e : ListenerEvt} {ip : BitVec 32} (hip : ip ≠ 0) (hu : ¬ l.Unlists ip e) (h : ip ∈ l.nat.pwrSaveIfs) :
    ip ∈ (l.step env e).nat.pwrSaveIfs := by
  refine step_nat (I := fun s => ip ∈ s.pwrSaveIfs) e h fun op s hc hs => NatApp.step_listed hip ⟨?_, ?_⟩ hs
  · rintro rfl
    exact hu (.inl hc)
  · rintro rfl
    exact hu (.inr hc)

theorem run_mem_pwrSaveIfs {es : List ListenerEvt} {ip : BitVec 32} (hip : ip ≠ 0)
    (hu : Lib.EachStep (step env) (fun l e => ¬ l.Unlists ip e) l es) (h : ip ∈ l.nat.pwrSaveIfs) :
    ip ∈ (l.run env es).nat.pwrSaveIfs :=
  hu.history (I := fun _ l => ip ∈ l.nat.pwrSaveIfs) (fun _ _ _ hs hu => step_mem_pwrSaveIfs hip hu hs) h (List.prefix_refl es)

/-- **An event keeps the listed clients out of the hardware** where no table it asks for comes back to them. -/
theorem step_powerSave (henv : env.Succeeds) {e : ListenerEvt} (hw : ∀ op, l.Calls op e → WakesNobody l.nat op) (h : PowerSave l.nat) :
    PowerSave (l.step env e).nat := by
  by_cases hopen : OpensTable e
  · cases e with
    | wanUp ip sta =>
      simp only [step, triggerWANUp]
      split
      · exact h
      next hup =>
        split
        · exact h
        · exact NatApp.step_powerSave henv h (hw _ ⟨by simpa using hup, rfl⟩)
    | natCall op => exact NatApp.step_powerSave henv h (hw op rfl)
    | _ => exact absurd hopen id
  · exact step_nat e h fun op s hc hs => NatApp.step_powerSave henv hs fun hop => absurd (hc.opensTable hop) hopen

theorem run_powerSave (henv : env.Succeeds) {es : List ListenerEvt} (hes : ∀ e ∈ es, ¬ OpensTable e) (h : PowerSave l.nat) :
    PowerSave (l.run env es).nat := by
  induction es generalizing l with
  | nil => exact h
  | cons e es ih =>
    refine ih (fun e' he' => hes e' (List.mem_cons_of_mem _ he')) (step_powerSave henv (fun op hc hop => ?_) h)
    exact absurd (hc.opensTable hop) (hes e List.mem_cons_self)

end ConntrackListener

/-- What of an event the dispatcher hands to the listener, which was there first. -/
def WlanEvt.dispatched : WlanEvt → List ListenerEvt
  | .neighClientIpAddrAdd data natIface => [.neighClientIpAddrAdd ⟨data.ipv4Addr, data.iptype = .v4, natIface⟩]
  | _ => []

/-- An access point and the listener. `totalNumWifiClients` counts other access points' clients, too; `asleep` is ghost:
whose latest power event is a power save. -/
structure SleepSys (δ : Type) where
  ap : Wlan
  totalNumWifiClients : Int
  outside : Outside
  listener : ConntrackListener δ
  asleep : MacAddr → Bool

/-- An event at the access point, or another one at the listener. -/
inductive SleepEvt
  | wlan (e : WlanEvt)
  | other (e : ListenerEvt)
  deriving DecidableEq, Repr

/-- What an event says of a client's sleep. -/
def SleepEvt.power (mac : MacAddr) : SleepEvt → Option Bool
  | .wlan e => e.power mac
  | .other _ => none

namespace SleepSys

open ConntrackListener (OpensTable)

def init (ap : Wlan) (total : Int) (listener : ConntrackListener δ) : SleepSys δ := ⟨ap, total, {}, listener, fun _ => false⟩

def step (D : IpaDriver) (env : NatEnv δ) (s : SleepSys δ) : SleepEvt → SleepSys δ
  | .wlan e =>
    let l := s.listener.run env e.dispatched
    let (w, total, o) := s.ap.eventCallback D e s.totalNumWifiClients { s.outside with told := [] }
    { ap := w, totalNumWifiClients := total, outside := o, listener := l.run env o.told, asleep := e.asleep s.asleep }
  | .other e => { s with listener := s.listener.step env e }

def run (D : IpaDriver) (env : NatEnv δ) (s : SleepSys δ) (es : List SleepEvt) : SleepSys δ := es.foldl (step D env) s

/-- All the listener hears of an event at the access point. -/
def hears (s : SleepSys δ) (e : WlanEvt) : List ListenerEvt := e.dispatched ++ s.ap.tells e

/-- Nothing the listener hears takes the address of a client off the list that goes on sleeping. -/
def Undisturbed (env : NatEnv δ) (s : SleepSys δ) (e : WlanEvt) : Prop :=
  ∀ mac addr, s.ap.wlanClient.Sleeper mac addr → e.asleep s.asleep mac = true →
    Lib.EachStep (ConntrackListener.step env) (fun l e' => ¬ l.Unlists addr e') s.listener (s.hears e)

/-- There is room for the address of a client that falls asleep. -/
def HasRoom (s : SleepSys δ) (e : WlanEvt) : Prop :=
  ∀ addr, s.ap.tells e = [.natCall (.updatePwrSaveIf addr)] → addr ∈ s.listener.nat.pwrSaveIfs ∨ 0 ∈ s.listener.nat.pwrSaveIfs

/-- The step leaves those that sleep asleep, as long as the access point is there. -/
def Meets (env : NatEnv δ) (s : SleepSys δ) : SleepEvt → Prop
  | .wlan e => s.ap.isActive = true → e ≠ .linkDown →
      s.ap.KeepsAsleep s.totalNumWifiClients s.asleep e ∧ s.Undisturbed env e ∧ s.HasRoom e
  | .other e => s.ap.isActive = true → (∀ mac addr, s.ap.wlanClient.Sleeper mac addr → ¬ s.listener.Unlists addr e) ∧
      ∀ op, s.listener.Calls op e → WakesNobody s.listener.nat op

/-- What holds of the two in every state of a run that meets the condition. -/
structure Ok (s : SleepSys δ) : Prop where
  powerSave : s.ap.isActive = true → PowerSave s.listener.nat
  inStep : s.ap.isActive = true → s.ap.wlanClient.InStep s.asleep
  listed : s.ap.isActive = true → ∀ mac addr, s.ap.wlanClient.Sleeper mac addr → addr ∈ s.listener.nat.pwrSaveIfs
  flags : s.ap.isActive = true → ∀ i, Wlan.FlagsOk s.ap.txProp (s.ap.wlanClient.slot i)
  held : s.outside.Keeps (s.ap.liveRt + 0) (s.ap.liveHdr + 0)

variable {s : SleepSys δ}

theorem not_opensTable_hears (s : SleepSys δ) (e : WlanEvt) : ∀ e' ∈ s.hears e, ¬ OpensTable e' := by
  have hbye : ∀ c : Client WlanOwn, ∀ e' ∈ c.goodbye, ¬ OpensTable e' := fun c e' he' => by
    unfold Client.goodbye at he'
    split at he'
    · rw [List.mem_singleton.1 he']
      exact id
    · cases he'
  have htells : ∀ e' ∈ s.ap.tells e, ¬ OpensTable e' := by
    unfold Wlan.tells
    split
    · exact fun _ he' => nomatch he'
    · cases e with
      | clientDel mac =>
        dsimp only
        split
        · exact fun _ he' => nomatch he'
        · exact hbye _
      | clientPowerSave mac | clientRecover mac =>
        dsimp only
        split
        · exact fun _ he' => nomatch he'
        · split
          · exact fun _ he' => List.mem_singleton.1 he' ▸ id
          · exact fun _ he' => nomatch he'
      | neighClientIpAddrAdd data natIface =>
        dsimp only
        split
        · exact fun _ he' => nomatch he'
        · split
          · intro e' he'
            rcases List.mem_append.1 he' with he' | he'
            · exact hbye _ e' he'
            · exact List.mem_singleton.1 he' ▸ id
          · exact fun _ he' => nomatch he'
      | linkDown =>
        intro e' he'
        obtain ⟨i, -, hi⟩ := List.mem_flatMap.1 he'
        exact hbye _ e' hi
      | _ => exact fun _ he' => nomatch he'
  intro e' he'
  rcases List.mem_append.1 he' with he' | he'
  · cases e with
    | neighClientIpAddrAdd data natIface => exact List.mem_singleton.1 he' ▸ id
    | _ => cases he'
  · exact htells e' he'

/-- The step at the access point, with what the listener hears of it. -/
theorem step_wlan (D : IpaDriver) (env : NatEnv δ) (s : SleepSys δ) (e : WlanEvt) :
    (s.step D env (.wlan e)).ap = (s.ap.eventCallback D e s.totalNumWifiClients { s.outside with told := [] }).1 ∧
      (s.step D env (.wlan e)).outside = (s.ap.eventCallback D e s.totalNumWifiClients { s.outside with told := [] }).2.2 ∧
      (s.step D env (.wlan e)).listener = s.listener.run env (s.hears e) ∧ (s.step D env (.wlan e)).asleep = e.asleep s.asleep := by
  refine ⟨rfl, rfl, ?_, rfl⟩
  have htold := Wlan.told_eventCallback (D := D) s.ap e s.totalNumWifiClients { s.outside with told := [] }
  rw [hears, ConntrackListener.run, List.foldl_append]
  exact congrArg (ConntrackListener.run env (s.listener.run env e.dispatched)) (htold.trans (List.nil_append _))

theorem step_ok (hD : AllSucceed D) (henv : env.Succeeds) {e : SleepEvt} (h : s.Ok) (hm : s.Meets env e) : (s.step D env e).Ok := by
  cases e with
  | wlan e =>
    obtain ⟨hap, hout, hl, hasleep⟩ := step_wlan D env s e
    have hheld : ({ s.outside with told := [] } : Outside).Keeps (s.ap.liveRt + 0) (s.ap.liveHdr + 0) :=
      ⟨h.held.rt, h.held.hdr, h.held.rt_ne_zero, h.held.hdr_ne_zero⟩
    have hlists := Wlan.eventCallback_lists hD e s.totalNumWifiClients h.flags hheld
    -- an access point that is there afterwards was there before, and its link is not down
    have hbefore : (s.step D env (.wlan e)).ap.isActive = true → s.ap.isActive = true ∧ e ≠ .linkDown := fun hact => by
      rw [hap] at hact
      have hwas : s.ap.isActive = true := by
        by_contra hno
        unfold Wlan.eventCallback at hact
        rw [if_pos (by simpa using hno)] at hact
        exact hno hact
      refine ⟨hwas, ?_⟩
      rintro rfl
      unfold Wlan.eventCallback at hact
      rw [if_neg (by simp [hwas])] at hact
      exact absurd hact Bool.false_ne_true
    have hsleep : (s.step D env (.wlan e)).ap.isActive = true →
        (s.step D env (.wlan e)).ap.wlanClient.InStep (e.asleep s.asleep) ∧
          ∀ mac addr, (s.step D env (.wlan e)).ap.wlanClient.Sleeper mac addr →
            s.ap.wlanClient.Sleeper mac addr ∨ s.ap.tells e = [.natCall (.updatePwrSaveIf addr)] := fun hact => by
      obtain ⟨hwas, hne⟩ := hbefore hact
      have hheld' : s.ap.Held 0 0 ({ s.outside with told := [] } : Outside) := by
        simp only [Wlan.liveRt, Wlan.liveHdr, hwas, if_true] at hheld
        exact hheld
      rw [hap] at hact ⊢
      exact Wlan.eventCallback_sleepers hD hwas (hm hwas hne).1 (h.flags hwas) hheld' (h.inStep hwas) hact
    refine ⟨fun hact => ?_, fun hact => ?_, fun hact mac addr hs => ?_, fun hact => ?_, ?_⟩
    · rw [hl]
      exact ConntrackListener.run_powerSave henv (not_opensTable_hears s e) (h.powerSave (hbefore hact).1)
    · rw [hasleep]
      exact (hsleep hact).1
    · obtain ⟨hwas, hne⟩ := hbefore hact
      obtain ⟨hin, hback⟩ := hsleep hact
      obtain ⟨-, hund, hroom⟩ := hm hwas hne
      have h0 : addr ≠ 0 := hs.ne_zero hin
      rw [hl]
      rcases hback mac addr hs with hold | hfalls
      · exact ConntrackListener.run_mem_pwrSaveIfs h0 (hund mac addr hold (hs.sleeps hin)) (h.listed hwas mac addr hold)
      · -- it has just been listed
        have hdisp : e.dispatched = [] := by
          unfold WlanEvt.dispatched
          split
          next data natIface =>
            unfold Wlan.tells at hfalls
            rw [if_neg (by simp [hwas])] at hfalls
            dsimp only at hfalls
            split at hfalls
            · cases hfalls
            · split at hfalls
              · have := congrArg List.getLast? hfalls
                simp at this
              · cases hfalls
          · rfl
        rw [hears, hdisp, hfalls]
        exact NatApp.updatePwrSaveIf_lists h0 (hroom addr hfalls)
    · rw [hap] at hact ⊢
      exact hlists.flags hact
    · rw [hap, hout]
      exact hlists.held
  | other e =>
    refine ⟨fun hact => ConntrackListener.step_powerSave henv (hm hact).2 (h.powerSave hact), h.inStep,
      fun hact mac addr hs => ?_, h.flags, h.held⟩
    exact ConntrackListener.step_mem_pwrSaveIfs (hs.ne_zero (h.inStep hact)) ((hm hact).1 mac addr hs) (h.listed hact mac addr hs)

/-! ## Runs -/

/-- After `es`, a client whose latest power event is a power save has no rule, and no connection in the hardware. The
driver has the rules the records list, and no others. -/
structure SleepersOff (es : List SleepEvt) (s : SleepSys δ) : Prop where
  noRule : s.ap.isActive = true → ∀ i < s.ap.wlanClient.num, Lib.latest (SleepEvt.power (s.ap.wlanClient.slot i).mac) es = true →
    (s.ap.wlanClient.slot i).rtHdls s.ap.txProp = []
  noNat : s.ap.isActive = true → ∀ i < s.ap.wlanClient.num, Lib.latest (SleepEvt.power (s.ap.wlanClient.slot i).mac) es = true →
    (s.ap.wlanClient.slot i).ipv4Set = true → ∀ cnt, (s.listener.nat.slot cnt).enabled = true →
      (s.listener.nat.slot cnt).privateIp ≠ (s.ap.wlanClient.slot i).v4Addr
  rules : s.outside.rt.Keeps s.ap.liveRt

theorem Ok.sleepersOff (h : s.Ok) {es : List SleepEvt} (hasleep : ∀ mac, s.asleep mac = Lib.latest (SleepEvt.power mac) es) :
    SleepersOff es s := by
  -- the record a client is found under, or one behind it
  have hcases : s.ap.isActive = true → ∀ i < s.ap.wlanClient.num, Lib.latest (SleepEvt.power (s.ap.wlanClient.slot i).mac) es = true →
      s.ap.wlanClient.index (s.ap.wlanClient.slot i).mac = some i ∧ (s.ap.wlanClient.slot i).Fits true ∨
        (s.ap.wlanClient.slot i).Blank := fun hact i hi hps => by
    by_cases hidx : s.ap.wlanClient.index (s.ap.wlanClient.slot i).mac = some i
    · have hf := (h.inStep hact).fits _ i hidx
      rw [hasleep, hps] at hf
      exact .inl ⟨hidx, hf⟩
    · exact .inr ((h.inStep hact).behind i hi ((ClientTable.index_ne_iff hi).1 hidx))
  refine ⟨fun hact i hi hps => ?_, fun hact i hi hps h4 cnt hen heq => ?_, ?_⟩
  · rcases hcases hact i hi hps with ⟨-, hf⟩ | hb
    · exact Client.rtHdls_off (hf.off rfl)
    · exact Client.rtHdls_off hb.off
  · rcases hcases hact i hi hps with ⟨hidx, hf⟩ | hb
    · have hlisted := h.listed hact _ _ ⟨i, hidx, hf.flag, h4, rfl⟩
      have hawake := (h.powerSave hact).awake cnt hen
      rw [heq, Bool.eq_false_iff] at hawake
      exact hawake (NatApp.isPwrSaveIf_iff.mpr ⟨hf.addr h4, hlisted⟩)
    · rw [hb.noAddr] at h4
      exact absurd h4 Bool.false_ne_true
  · have hk := h.held.rt
    rwa [add_zero] at hk

theorem asleep_step (s : SleepSys δ) (e : SleepEvt) (mac : MacAddr) :
    (s.step D env e).asleep mac = (e.power mac).getD (s.asleep mac) := by
  cases e with
  | wlan e => rfl
  | other e => rfl

/-- A new access point and a new listener. -/
def start (txProp : List TxProp) (excpPipe : Nat) (isMccMode : Bool) (total : Int) (listener : ConntrackListener δ) : SleepSys δ :=
  init { txProp, excpPipe, isMccMode } total listener

theorem start_ok {txProp : List TxProp} {excpPipe : Nat} {isMccMode : Bool} {total : Int} {listener : ConntrackListener δ}
    (h : PowerSave listener.nat) : (start txProp excpPipe isMccMode total listener).Ok := by
  have hnone : ∀ {mac i}, (start txProp excpPipe isMccMode total listener).ap.wlanClient.index mac ≠ some i := fun hidx =>
    absurd (ClientTable.index_some hidx).1 (Nat.not_lt_zero _)
  exact ⟨fun _ => h, fun _ => ⟨fun _ _ hidx => absurd hidx hnone, fun i hi => absurd hi (Nat.not_lt_zero i)⟩,
    fun _ _ _ ⟨_, hidx, _⟩ => absurd hidx hnone, fun _ _ => ⟨fun h => (nomatch h), fun h => nomatch h⟩,
    ⟨.empty, .empty, Multiset.notMem_zero _, Multiset.notMem_zero _⟩⟩

/-- **A sleeping client is not offloaded**, in every state of a run whose steps meet the condition. -/
theorem sleeping_client_run (hD : AllSucceed D) (henv : env.Succeeds) {txProp : List TxProp} {excpPipe : Nat} {isMccMode : Bool}
    {total : Int} {cfg : ListenerConfig} {sta : Bool} {wan : BitVec 32} {n : Nat} {algPorts : List IpacmAlg}
    {pubIpAddrPre tcp udp : BitVec 32} {pwr : List (BitVec 32)} {drv : δ} (hpwr : ListedOnce pwr) {es : List SleepEvt}
    (hes : Lib.EachStep (step D env) (Meets env)
      (start txProp excpPipe isMccMode total (.init cfg sta wan (NatApp.init n algPorts pubIpAddrPre tcp udp pwr drv))) es)
    {pre : List SleepEvt} (hpre : pre <+: es) :
    SleepersOff pre
      (run D env (start txProp excpPipe isMccMode total (.init cfg sta wan (NatApp.init n algPorts pubIpAddrPre tcp udp pwr drv))) pre) := by
  have h := hes.history (I := fun es s => s.Ok ∧ ∀ mac, s.asleep mac = Lib.latest (SleepEvt.power mac) es)
    (fun es s e ⟨hok, hasleep⟩ hm => ⟨step_ok hD henv hok hm, fun mac => by
      rw [asleep_step, hasleep, Lib.latest_concat]⟩)
    ⟨start_ok (NatApp.init_powerSave hpwr), fun _ => rfl⟩ hpre
  exact h.1.sleepersOff h.2

/-- Client 1 of the access point with address 10, behind the NATed interface. -/
def sampleAddr : EventDataAll := ⟨.v4, 0, 10, 0, 1⟩

/-- Client 1 joins, gets its address, opens a connection and falls asleep; then it opens another. -/
def sampleEvents : List SleepEvt :=
  [.wlan (.clientAddEx [.macAddr 1 0]), .wlan (.neighClientIpAddrAdd sampleAddr (some true)), .other (.wanUp 20 false),
    .other (.ctMessage ConntrackListener.sampleOpening), .wlan (.clientPowerSave 1),
    .other (.ctMessage ConntrackListener.sampleOpening)]

def sampleStart (txProp : List TxProp) : SleepSys Unit :=
  start txProp 1 false 0 (.init ⟨false, 20, []⟩ false 0 NatApp.sampleInit)

/-- No record has the flag. -/
theorem not_sleeper {t : ClientTable WlanOwn} (h : ∀ i < t.num, (t.slot i).own.powerSaveSet = false) (mac : MacAddr) (addr : BitVec 32) :
    ¬ t.Sleeper mac addr := by
  rintro ⟨i, hi, hps, -⟩
  rw [h i (ClientTable.index_some hi).1] at hps
  exact Bool.false_ne_true hps

theorem meets_ctMessage (env : NatEnv δ) (s : SleepSys δ) (m : CtMsg) : s.Meets env (.other (.ctMessage m)) := by
  refine fun _ => ⟨fun _ _ _ hu => ?_, fun op hc hop => ?_⟩
  · exact hu.elim id id
  · exact absurd (ConntrackListener.Calls.opensTable hc hop) id

theorem sample_meets : Lib.EachStep (step (sampleDriver []) NatApp.acceptingEnv) (Meets NatApp.acceptingEnv)
    (sampleStart sampleTx) sampleEvents := by
  have hawake : ∀ {s : SleepSys Unit} {e : WlanEvt}, (∀ i < s.ap.wlanClient.num, (s.ap.wlanClient.slot i).own.powerSaveSet = false) →
      s.Undisturbed NatApp.acceptingEnv e := fun h mac addr hs => absurd hs (not_sleeper h mac addr)
  have haddr : ∀ {w : Wlan} {data : EventDataAll}, (∀ i < w.wlanClient.num, (w.wlanClient.slot i).own.powerSaveSet = false) →
      w.KeepsAddr data := fun h _ _ i hi hps => by
    rw [h i (ClientTable.index_some hi).1] at hps
    exact absurd hps Bool.false_ne_true
  refine ⟨fun _ _ => ⟨fun _ _ => rfl, hawake (by decide), fun addr _ => .inr (by decide)⟩,
    fun _ _ => ⟨haddr (by decide +kernel), hawake (by decide +kernel), fun addr _ => .inr (by decide +kernel)⟩,
    fun _ => ⟨fun mac addr hs => absurd hs (not_sleeper (by decide +kernel) mac addr), fun op hc hop => ?_⟩, meets_ctMessage _ _ _,
    fun _ _ => ⟨trivial, hawake (by decide +kernel), fun addr _ => .inr (by decide +kernel)⟩, meets_ctMessage _ _ _, trivial⟩
  -- it is not the address of the last table
  exact absurd (hc.2.symm.trans hop) (by decide +kernel)

theorem sleeping_client_run_sample :
    SleepersOff sampleEvents (run (sampleDriver []) NatApp.acceptingEnv (sampleStart sampleTx) sampleEvents) :=
  sleeping_client_run (fun _ => rfl) NatApp.acceptingEnv_succeeds NatApp.listedOnce_zero sample_meets (List.prefix_refl _)

/-- Client 2 falls asleep, client 1 leaves, and client 2 is awake for its new address. -/
def movedEvents : List SleepEvt :=
  [.wlan (.clientAddEx [.macAddr 1 0]), .wlan (.clientAddEx [.macAddr 2 0]), .wlan (.clientPowerSave 2), .wlan (.clientDel 1),
    .wlan (.neighClientIpAddrAdd ⟨.v6, 0, 0, 0xFE800000000000000000000000000002, 2⟩ none)]

/-- Client 1 gets a new address while it sleeps, and opens a connection. -/
def renewedEvents : List SleepEvt :=
  [.other (.wanUp 20 false), .wlan (.clientAddEx [.macAddr 1 0]), .wlan (.neighClientIpAddrAdd { sampleAddr with ipv4Addr := 11 } (some true)),
    .wlan (.clientPowerSave 1), .wlan (.neighClientIpAddrAdd sampleAddr (some true)),
    .other (.ctMessage ConntrackListener.sampleOpening)]

/-- **A sleeping client is woken**: in its record by another's removal, in the NAT cache by a new address. -/
theorem sleeping_client_woken :
    AllSucceed (sampleDriver []) ∧ NatApp.acceptingEnv.Succeeds ∧
      ¬ SleepersOff movedEvents
        (run (sampleDriver []) NatApp.acceptingEnv (sampleStart [⟨.v6, 4, 5, "wlan0_ipv6"⟩]) movedEvents) ∧
      ¬ SleepersOff renewedEvents (run (sampleDriver []) NatApp.acceptingEnv (sampleStart sampleTx) renewedEvents) := by
  refine ⟨fun _ => rfl, NatApp.acceptingEnv_succeeds, fun h => ?_, fun h => ?_⟩
  · exact absurd (h.noRule (by decide +kernel) 0 (by decide +kernel) (by decide +kernel)) (by decide +kernel)
  · exact absurd (by decide +kernel)
      (h.noNat (by decide +kernel) 0 (by decide +kernel) (by decide +kernel) (by decide +kernel) 0 (by decide +kernel))

end SleepSys
end HiaeCommon
