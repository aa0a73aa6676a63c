/-
Where the XML walkers stay in their memory: for which documents neither an
entry array nor the content buffer is left, and no missing text is read.

A walk performs the acts of the elements it visits, in document order
(`visits`), and the only thing an act needs of those before it is how many of
them have counted an entry. The counters have eight bits.
-/
import HiaeCommon.Ipacm.FirewallXml

namespace HiaeCommon

open Function (update)

section Walk

variable {γ ι : Type} {entry : ι → Type} {size : ι → Nat} (env : XmlEnv)

/-- The elements a walk visits that have an act, each with its text. -/
def visits (acts : List (String × XmlAct γ entry)) : XmlNode → List (XmlAct γ entry × Option CStr)
  | .null => []
  | .text _ next => visits acts next
  | .other next => visits acts next
  | .element name children next =>
    match findAct acts name with
    | none => visits acts next
    | some a => (a, ipacmReadContentElement children) :: ((if a.descends then visits acts children else []) ++ visits acts next)

variable [DecidableEq ι]

/-- The act counts an entry of `t`. -/
def XmlAct.counts (t : ι) : XmlAct γ entry → Bool
  | .count t' => t' = t
  | _ => false

/-- What an act needs, when the counters are `num`: an entry it writes is in its array, a text it copies fits the buffer,
and a text it reads without a look is there. -/
def XmlAct.Fits (size : ι → Nat) (num : ι → Nat) : XmlAct γ entry → Option CStr → Prop
  | .group, _ => True
  | .count _, _ => True
  | .entry t _, _ => LastInRange (num t) (size t)
  | .setting _ _, none => True
  | .setting _ _, some content => strSize content ≤ maxXmlStrLen
  | .field _ checked _ _, none => checked = true
  | .field t _ terminated f, some content =>
    strSize content ≤ maxXmlStrLen ∧ ((f (.of env terminated content)).isSome → LastInRange (num t) (size t))
  | .name _ _, none => True
  | .name t _, some _ => LastInRange (num t) (size t)

/-- The counters once the acts of `l` are done: `uint8_t`s that began with zero. -/
def counted (l : List (XmlAct γ entry × Option CStr)) (t : ι) : Nat := l.countP (fun v => v.1.counts t) % 2 ^ 8

/-- Every act that is reached has what it needs. -/
def InBounds (size : ι → Nat) (vs : List (XmlAct γ entry × Option CStr)) : Prop :=
  ∀ l v r, vs = l ++ v :: r → v.1.Fits env size (counted l) v.2

/-! ## One act -/

variable {env} {c c' : XmlConf γ entry size}

theorem XmlConf.writeLast_ok (t : ι) (f : γ × entry t → γ × entry t) (c : XmlConf γ entry size) :
    (LastInRange (c.table t).num.toNat (size t) ∧ ∃ c', c.writeLast t f = .ok c' ∧ ∀ u, (c'.table u).num = (c.table u).num) ∨
      ¬ LastInRange (c.table t).num.toNat (size t) ∧ c.writeLast t f = .error .index := by
  unfold writeLast
  split
  next h =>
    refine .inl ⟨h, _, rfl, fun u => ?_⟩
    by_cases hu : u = t
    · subst hu
      simp only [Function.update_self]
    · simp only [Function.update_of_ne hu]
  next h => exact .inr ⟨h, rfl⟩

theorem XmlConf.count_num (t u : ι) (c : XmlConf γ entry size) :
    ((c.count t).table u).num = (c.table u).num + if t = u then 1 else 0 := by
  unfold count
  by_cases hu : u = t
  · subst hu
    simp only [Function.update_self, if_true]
  · simp only [Function.update_of_ne hu, if_neg (Ne.symm hu)]
    exact (add_zero _).symm

theorem contentBuf_cases (env : XmlEnv) (terminated : Bool) (content : CStr) :
    (strSize content ≤ maxXmlStrLen ∧ contentBuf env terminated content = .ok (.of env terminated content)) ∨
      ¬ strSize content ≤ maxXmlStrLen ∧ contentBuf env terminated content = .error .copy := by
  unfold contentBuf
  split
  next h => exact .inl ⟨h, rfl⟩
  next h => exact .inr ⟨h, rfl⟩

/-- How the counters go on. -/
def Advances (a : XmlAct γ entry) (c c' : XmlConf γ entry size) : Prop :=
  ∀ u, (c'.table u).num = (c.table u).num + if a.counts u then 1 else 0

theorem Advances.of_eq {a : XmlAct γ entry} (ha : ∀ u, a.counts u = false) (h : ∀ u, (c'.table u).num = (c.table u).num) :
    Advances a c c' := fun u => by rw [h, ha, if_neg Bool.false_ne_true, add_zero]

/-- **What one act does**: it has what it needs and counts, or it ends in a fault. -/
theorem XmlAct.perform_field_none {env : XmlEnv} {t : ι} {checked terminated : Bool} {f : ContentBuf → Option (γ × entry t → γ × entry t)}
    {content : CStr} {c : XmlConf γ entry size} {buf : ContentBuf} (hb : contentBuf env terminated content = .ok buf)
    (hf : f buf = none) : XmlAct.perform env (.field t checked terminated f) (some content) c = .ok c := by
  simp only [perform, hb, bind, Except.bind, hf]

theorem XmlAct.perform_field_some {env : XmlEnv} {t : ι} {checked terminated : Bool} {f : ContentBuf → Option (γ × entry t → γ × entry t)}
    {content : CStr} {c : XmlConf γ entry size} {buf : ContentBuf} (hb : contentBuf env terminated content = .ok buf)
    {g : γ × entry t → γ × entry t} (hf : f buf = some g) :
    XmlAct.perform env (.field t checked terminated f) (some content) c = c.writeLast t g := by
  simp only [perform, hb, bind, Except.bind, hf]

theorem XmlAct.perform_cases (env : XmlEnv) (a : XmlAct γ entry) (text : Option CStr) (c : XmlConf γ entry size) :
    (a.Fits env size (fun t => (c.table t).num.toNat) text ∧ ∃ c', a.perform env text c = .ok c' ∧ Advances a c c') ∨
      ¬ a.Fits env size (fun t => (c.table t).num.toNat) text ∧ ∃ e, a.perform env text c = .error e := by
  have quiet : ∀ {b : XmlAct γ entry}, (∀ u, b.counts u = false) → Advances b c c := fun hb => .of_eq hb fun _ => rfl
  cases a with
  | group => exact .inl ⟨trivial, c, by cases text <;> rfl, quiet fun _ => rfl⟩
  | count t => exact .inl ⟨trivial, c.count t, by cases text <;> rfl, fun u => by simp [XmlConf.count_num, XmlAct.counts]⟩
  | entry t f =>
    rcases c.writeLast_ok t (fun p => (p.1, f p.2)) with ⟨h, c', hw, hn⟩ | ⟨h, hw⟩
    · exact .inl ⟨by cases text <;> exact h, c', by cases text <;> exact hw, .of_eq (fun _ => rfl) hn⟩
    · exact .inr ⟨by cases text <;> exact h, _, by cases text <;> exact hw⟩
  | setting descends f =>
    cases text with
    | none => exact .inl ⟨trivial, c, rfl, quiet fun _ => rfl⟩
    | some content =>
      rcases contentBuf_cases env false content with ⟨h, hb⟩ | ⟨h, hb⟩
      · exact .inl ⟨h, { c with settings := f (.of env false content) c.settings }, by simp only [perform, hb]; rfl,
          .of_eq (fun _ => rfl) fun _ => rfl⟩
      · exact .inr ⟨h, _, by simp only [perform, hb]; rfl⟩
  | field t checked terminated f =>
    cases text with
    | none =>
      cases checked with
      | true => exact .inl ⟨rfl, c, rfl, quiet fun _ => rfl⟩
      | false => exact .inr ⟨Bool.false_ne_true, _, rfl⟩
    | some content =>
      rcases contentBuf_cases env terminated content with ⟨h, hb⟩ | ⟨h, hb⟩
      · cases hf : f (.of env terminated content) with
        | none =>
          exact .inl ⟨⟨h, fun hs => by simp [hf] at hs⟩, c, perform_field_none hb hf, quiet fun _ => rfl⟩
        | some g =>
          have hp : XmlAct.perform env (.field t checked terminated f) (some content) c = c.writeLast t g := perform_field_some hb hf
          rcases c.writeLast_ok t g with ⟨hl, c', hw, hn⟩ | ⟨hl, hw⟩
          · exact .inl ⟨⟨h, fun _ => hl⟩, c', hp.trans hw, .of_eq (fun _ => rfl) hn⟩
          · exact .inr ⟨fun hfit => hl (hfit.2 (by simp [hf])), _, hp.trans hw⟩
      · exact .inr ⟨fun hfit => h hfit.1, _, by simp only [perform, hb]; rfl⟩
  | name t f =>
    cases text with
    | none => exact .inl ⟨trivial, c, rfl, quiet fun _ => rfl⟩
    | some content =>
      rcases c.writeLast_ok t (fun p => (p.1, f (content.take (maxXmlStrLen - 1)) p.2)) with ⟨h, c', hw, hn⟩ | ⟨h, hw⟩
      · exact .inl ⟨h, c', hw, .of_eq (fun _ => rfl) hn⟩
      · exact .inr ⟨h, _, hw⟩

/-! ## The walk -/

/-- The acts of the visits, one after the other. -/
def performAll (env : XmlEnv) (vs : List (XmlAct γ entry × Option CStr)) (c : XmlConf γ entry size) :
    Except XmlFault (XmlConf γ entry size) :=
  vs.foldlM (fun c v => v.1.perform env v.2 c) c

/-- **A walk is its visits.** -/
theorem parseTree_eq (env : XmlEnv) (acts : List (String × XmlAct γ entry)) (node : XmlNode) (c : XmlConf γ entry size) :
    parseTree env acts node c = performAll env (visits acts node) c := by
  induction node generalizing c with
  | null => rfl
  | text content next ih => exact ih c
  | other next ih => exact ih c
  | element name children next ihc ihn =>
    rw [parseTree, visits]
    cases findAct acts name with
    | none => exact ihn c
    | some a =>
      simp only [performAll, List.foldlM_cons, List.foldlM_append]
      refine bind_congr fun c₁ => ?_
      cases a.descends with
      | true =>
        simp only [if_true]
        rw [ihc c₁]
        exact bind_congr fun c₂ => ihn c₂
      | false => exact ihn c₁

/-- The counters after the acts of `l`, from `c`. -/
def countedFrom (c : XmlConf γ entry size) (l : List (XmlAct γ entry × Option CStr)) (t : ι) : Nat :=
  ((c.table t).num + BitVec.ofNat 8 (l.countP fun v => v.1.counts t)).toNat

theorem countedFrom_cons {v : XmlAct γ entry × Option CStr} (h : Advances v.1 c c') (l : List (XmlAct γ entry × Option CStr)) :
    countedFrom c (v :: l) = countedFrom c' l := by
  funext t
  rw [countedFrom, countedFrom, h t, List.countP_cons]
  cases v.1.counts t with
  | true =>
    rw [if_pos rfl, if_pos rfl, Nat.add_comm, BitVec.ofNat_add, ← BitVec.add_assoc]
    rfl
  | false => rw [if_neg Bool.false_ne_true, if_neg Bool.false_ne_true, Nat.add_zero, add_zero]

theorem countedFrom_nil (c : XmlConf γ entry size) : countedFrom c [] = fun t => (c.table t).num.toNat := by
  funext t
  simp [countedFrom]

theorem performAll_ok_iff (env : XmlEnv) (vs : List (XmlAct γ entry × Option CStr)) (c : XmlConf γ entry size) :
    (∃ c', performAll env vs c = .ok c') ↔ ∀ l v r, vs = l ++ v :: r → v.1.Fits env size (countedFrom c l) v.2 := by
  induction vs generalizing c with
  | nil => exact ⟨fun _ l v r h => absurd h (by simp), fun _ => ⟨c, rfl⟩⟩
  | cons v vs ih =>
    have hcons : performAll env (v :: vs) c = v.1.perform env v.2 c >>= performAll env vs := List.foldlM_cons
    rw [hcons]
    rcases v.1.perform_cases env v.2 c with ⟨hfit, c', hp, hadv⟩ | ⟨hfit, e, hp⟩
    · rw [hp]
      refine (ih c').trans ⟨fun h l u r heq => ?_, fun h l u r heq => ?_⟩
      · cases l with
        | nil =>
          cases heq
          rw [countedFrom_nil]
          exact hfit
        | cons w l =>
          rw [List.cons_append, List.cons.injEq] at heq
          obtain ⟨rfl, heq⟩ := heq
          rw [countedFrom_cons hadv]
          exact h l u r heq
      · rw [← countedFrom_cons hadv]
        exact h (v :: l) u r (congrArg (v :: ·) heq)
    · rw [hp]
      refine ⟨fun ⟨c', hc⟩ => (nomatch hc), fun h => absurd ?_ hfit⟩
      have := h [] v vs rfl
      rwa [countedFrom_nil] at this

/-- **Exactly where a walk stays in its memory.** -/
theorem parseTree_ok_iff (acts : List (String × XmlAct γ entry)) (node : XmlNode) (hc : ∀ t, (c.table t).num = 0) :
    (∃ c', parseTree env acts node c = .ok c') ↔ InBounds env size (visits acts node) := by
  rw [parseTree_eq, performAll_ok_iff]
  have : countedFrom c = counted := by
    funext l t
    rw [countedFrom, hc, zero_add, BitVec.toNat_ofNat, counted]
  rw [this]
  exact Iff.rfl

end Walk

/-- **The XML walkers stay in bounds** exactly on these documents: each visited element that writes into an entry array comes
after as many entry tags as make the eight-bit counter the number of an entry of the array, each text that is copied into the
content buffer fits it, and an IPv4 destination mask has a text. -/
theorem xml_parsers_bounds (env : XmlEnv) (node : XmlNode) :
    ((∃ config, ipacmFirewallXmlParseTree env node .zero = .ok config) ↔
      InBounds env (fun _ => ipacmMaxFirewallEntries) (visits (firewallActs env) node)) ∧
    ((∃ config, ipacmCfgXmlParseTree env node .zero = .ok config) ↔ InBounds env CfgTable.size (visits (cfgActs env) node)) :=
  ⟨parseTree_ok_iff _ node fun _ => rfl, parseTree_ok_iff _ node fun t => by cases t <;> rfl⟩

/-- `inet_addr` and `inet_pton` that convert nothing, and a terminator behind the buffer. -/
def sampleXmlEnv : XmlEnv := ⟨fun _ => 0xFFFFFFFF, fun _ => none, []⟩

/-- A single element with a text. -/
def sampleElement (name text : String) : XmlNode := .element (cstr name) (.text (cstr text) .null) .null

/-- A family outside any entry, a destination mask without a text, and an interface's mode outside any interface. -/
theorem xml_parsers_out_of_bounds :
    (¬ ∀ env node, ∃ config, ipacmFirewallXmlParseTree env node .zero = .ok config) ∧
      (ipacmFirewallXmlParseTree sampleXmlEnv
        (.element (cstr "Firewall") (.element (cstr "IPV4DestinationSubnetMask") .null .null) .null) .zero = .error .noText) ∧
      ¬ ∀ env node, ∃ config, ipacmCfgXmlParseTree env node .zero = .ok config := by
  refine ⟨fun h => ?_, rfl, fun h => ?_⟩
  · obtain ⟨c, hc⟩ := h sampleXmlEnv (sampleElement "IPFamily" "4")
    have : ipacmFirewallXmlParseTree sampleXmlEnv (sampleElement "IPFamily" "4") .zero = .error .index := rfl
    rw [this] at hc
    cases hc
  · obtain ⟨c, hc⟩ := h sampleXmlEnv (sampleElement "Mode" "ROUTER")
    have : ipacmCfgXmlParseTree sampleXmlEnv (sampleElement "Mode" "ROUTER") .zero = .error .index := rfl
    rw [this] at hc
    cases hc

end HiaeCommon
