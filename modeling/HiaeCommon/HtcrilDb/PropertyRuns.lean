/-
The property store over runs of its calls.

What the table holds is what the latest sets that returned 0 put there
(`Stored.table`), as long as the strings have no quote: they are formatted into
the statements as they are. A statement that is cut by the buffer ends inside one
of its strings, and SQLite refuses it. `done_init` is not taken back when the
handle is closed, so no call may follow that one.
-/
import HiaeCommon.HtcrilDb.PropertyDb

namespace HiaeCommon.HtcrilDb

open Lib (Run)

variable {sq : Sqlite}

/-! ## What is expected -/

/-- What a call that has returned says of the properties. -/
def putCalled (props : Table) (c : Called) : Table :=
  match c.1 with
  | .set name value _ _ => if c.2.rc = 0 then Function.update props name.text (some value.text) else props
  | _ => props

/-- The value of the latest set of each property that returned 0. -/
def latestSet (calls : List Called) : Table := calls.foldl putCalled fun _ => none

/-- What a get that returns 0 is to give. -/
def expected (calls : List Called) (name : CString) (defValue : Option CString) : Text :=
  match latestSet calls name.text with
  | some value => value
  | none => (defValue.map (·.text)).getD []

/-- What is expected of a call after the calls so far. -/
structure Right (sq : Sqlite) (calls : List Called) (s : Store) (c : Call) : Prop where
  handle : (s.call sq c).2.staleUse = false
  get : ∀ name defValue o ioError, c = .get name defValue o ioError → (s.call sq c).1.rc = 0 →
    (s.call sq c).1.value = some (expected calls name defValue)
  set : ∀ name value o ioError, c = .set name value o ioError → ∀ other, other ≠ name.text →
    (s.call sq c).2.table other = s.table other

/-! ## When it is so -/

/-- The handle has not been closed since `done_init` was set. -/
def Store.Usable (s : Store) : Prop := s.doneInit = true → s.handleOpen = true

/-- SQLite refuses the text, and nothing is changed. -/
def Store.Refused (sq : Sqlite) (s : Store) (sql : Text) : Prop :=
  ∃ rows, sq.exec s.table (snprintf sqlSize sql) = ⟨false, rows, s.table⟩

/-- The condition on a call. -/
def Store.Meets (sq : Sqlite) (s : Store) : Call → Prop
  | .init _ => True
  | .get name defValue _ _ =>
    s.Usable ∧ (quote ∉ name.text ∨ s.Refused sq (selectSql name.text)) ∧
      -- an empty value is taken for none
      (s.table name.text = some [] → (defValue.map (·.text)).getD [] = [])
  | .set name value _ _ =>
    s.Usable ∧ (quote ∉ name.text ∧ quote ∉ value.text ∨ s.Refused sq (insertSql name.text value.text))
  | .resetCleanup => s.Usable

/-! ## Statements -/

variable {s : Store} {calls : List Called}

/-- A text that was cut ends behind its head. -/
theorem snprintf_cases {head : Text} (hhead : head.length < sqlSize) (text : Text) :
    snprintf sqlSize text = text ∨ ∃ n, head.length ≤ n ∧ n < text.length ∧ snprintf sqlSize text = text.take n := by
  unfold snprintf
  by_cases hlen : text.length ≤ sqlSize - 1
  · exact .inl (List.take_of_length_le hlen)
  · exact .inr ⟨sqlSize - 1, by omega, by omega, rfl⟩

theorem exec_select (hsq : sq.Documented) (hopen : s.handleOpen = true) {name : Text} (hname : quote ∉ name) (ioError : Bool) :
    ∃ ok rows, sqlite3Exec sq s (snprintf sqlSize (selectSql name)) ioError = (ok, rows, s) ∧ (ok = true → rows = (s.table name).toList) := by
  have hhead : selectHead.length < sqlSize := by decide +kernel
  unfold sqlite3Exec
  rw [if_neg (not_not.2 hopen)]
  by_cases hio : ioError = true
  · exact ⟨false, [], if_pos hio, fun h => by cases h⟩
  · rw [if_neg hio]
    rcases snprintf_cases hhead (selectSql name) with hfit | ⟨n, hle, hlt, hcut⟩
    · rw [hfit, hsq.select s.table name hname]
      exact ⟨true, _, rfl, fun _ => rfl⟩
    · rw [hcut, hsq.selectCut s.table name n hname hle hlt]
      exact ⟨false, [], rfl, fun h => by cases h⟩

theorem exec_insert (hsq : sq.Documented) (hopen : s.handleOpen = true) {name value : Text} (hname : quote ∉ name)
    (hvalue : quote ∉ value) (ioError : Bool) :
    ∃ ok rows, sqlite3Exec sq s (snprintf sqlSize (insertSql name value)) ioError =
      (ok, rows, if ok then { s with table := Function.update s.table name (some value) } else s) := by
  have hhead : insertHead.length < sqlSize := by decide +kernel
  unfold sqlite3Exec
  rw [if_neg (not_not.2 hopen)]
  by_cases hio : ioError = true
  · exact ⟨false, [], if_pos hio⟩
  · rw [if_neg hio]
    rcases snprintf_cases hhead (insertSql name value) with hfit | ⟨n, hle, hlt, hcut⟩
    · rw [hfit, hsq.insert s.table name value hname hvalue]
      exact ⟨true, [], rfl⟩
    · rw [hcut, hsq.insertCut s.table name value n hname hvalue hle hlt]
      exact ⟨false, [], rfl⟩

/-- A statement that is refused leaves all as it is. -/
theorem exec_refused (hopen : s.handleOpen = true) {sql : Text} (h : s.Refused sq sql) (ioError : Bool) :
    ∃ rows, sqlite3Exec sq s (snprintf sqlSize sql) ioError = (false, rows, s) := by
  obtain ⟨rows, hexec⟩ := h
  unfold sqlite3Exec
  rw [if_neg (not_not.2 hopen)]
  by_cases hio : ioError = true
  · exact ⟨[], if_pos hio⟩
  · rw [if_neg hio, hexec]
    exact ⟨rows, rfl⟩

/-! ## Calls -/

/-- What holds after the calls so far. -/
structure Stored (calls : List Called) (s : Store) : Prop where
  table : s.table = latestSet calls
  fresh : s.staleUse = false

theorem stored_initial : Stored [] Store.initial := ⟨rfl, rfl⟩

/-- An init that returns 0 leaves an open handle, and no init anything else behind. -/
theorem dbInitLocked_spec (husable : s.Usable) (o : InitOutcome) :
    (dbInitLocked s o).2.table = s.table ∧ (dbInitLocked s o).2.staleUse = s.staleUse ∧
      ((dbInitLocked s o).1 = 0 → (dbInitLocked s o).2.handleOpen = true) := by
  unfold dbInitLocked
  split
  next hdone => exact ⟨rfl, rfl, fun _ => husable hdone⟩
  next =>
    cases o with
    | initializeFails => exact ⟨rfl, rfl, fun h => absurd (show (-1 : Int) = 0 from h) (by decide)⟩
    | openFails => exact ⟨rfl, rfl, fun h => absurd (show (-1 : Int) = 0 from h) (by decide)⟩
    | createFails => exact ⟨rfl, rfl, fun h => absurd (show (-1 : Int) = 0 from h) (by decide)⟩
    | opened => exact ⟨rfl, rfl, fun _ => rfl⟩

theorem latestSet_concat (calls : List Called) (c : Called) : latestSet (calls ++ [c]) = putCalled (latestSet calls) c := by
  unfold latestSet
  rw [List.foldl_append]
  rfl

/-- A set: it returns 0 and puts the value, or it changes nothing. -/
theorem set_spec (hsq : sq.Documented) (hopen : s.handleOpen = true) {name value : CString}
    (hmeets : quote ∉ name.text ∧ quote ∉ value.text ∨ s.Refused sq (insertSql name.text value.text)) (ioError : Bool) :
    dbPropertySetLocked sq s name value ioError = (⟨0, none⟩, { s with table := Function.update s.table name.text (some value.text) }) ∨
      dbPropertySetLocked sq s name value ioError = (⟨-1, none⟩, s) := by
  unfold dbPropertySetLocked
  rcases hmeets with ⟨hname, hvalue⟩ | hrefused
  · obtain ⟨ok, rows, hexec⟩ := exec_insert hsq hopen hname hvalue ioError
    rw [hexec]
    cases ok with
    | true => exact .inl rfl
    | false => exact .inr rfl
  · obtain ⟨rows, hexec⟩ := exec_refused hopen hrefused ioError
    rw [hexec]
    exact .inr rfl

/-- A get: it changes nothing, and where it returns 0 it gives what the table has. -/
theorem get_spec (hsq : sq.Documented) (hopen : s.handleOpen = true) (name : CString) {defValue : Option CString}
    (hmeets : quote ∉ name.text ∨ s.Refused sq (selectSql name.text))
    (hempty : s.table name.text = some [] → (defValue.map (·.text)).getD [] = []) (ioError : Bool) :
    dbPropertyGetLocked sq s name defValue ioError = (⟨0, some ((s.table name.text).getD ((defValue.map (·.text)).getD []))⟩, s) ∨
      dbPropertyGetLocked sq s name defValue ioError = (⟨-1, none⟩, s) := by
  unfold dbPropertyGetLocked
  rcases hmeets with hname | hrefused
  · obtain ⟨ok, rows, hexec, hrows⟩ := exec_select hsq hopen hname ioError
    rw [hexec]
    cases ok with
    | false => exact .inr rfl
    | true =>
      rw [hrows rfl]
      left
      cases htable : s.table name.text with
      | none =>
        cases defValue with
        | none => rfl
        | some d => rfl
      | some value =>
        cases defValue with
        | none => rfl
        | some d =>
          by_cases hvalue : value = []
          · subst hvalue
            have hd : d.text = [] := hempty htable
            simp [getCb, hd]
          · simp [getCb, hvalue]
  · obtain ⟨rows, hexec⟩ := exec_refused hopen hrefused ioError
    rw [hexec]
    exact .inr rfl

/-- What a call with the condition does: it is right, and what is stored after it
is what the calls say. -/
theorem Stored.call (hsq : sq.Documented) (h : Stored calls s) {c : Call} (hmeets : s.Meets sq c) :
    Right sq calls s c ∧ Stored (calls ++ [(c, (s.call sq c).1)]) (s.call sq c).2 := by
  cases c with
  | init o =>
    have htable : (dbInitLocked s o).2.table = s.table ∧ (dbInitLocked s o).2.staleUse = s.staleUse := by
      unfold dbInitLocked
      split
      · exact ⟨rfl, rfl⟩
      · cases o <;> exact ⟨rfl, rfl⟩
    refine ⟨⟨htable.2.trans h.fresh, fun _ _ _ _ heq => (nomatch heq), fun _ _ _ _ heq => (nomatch heq)⟩, ?_, htable.2.trans h.fresh⟩
    rw [latestSet_concat, ← h.table]
    exact htable.1
  | get name defValue o ioError =>
    obtain ⟨husable, hname, hempty⟩ := hmeets
    obtain ⟨htable, hstale, hopen⟩ := dbInitLocked_spec husable o
    have hcall : s.call sq (.get name defValue o ioError) =
        if (dbInitLocked s o).1 = 0 then dbPropertyGetLocked sq (dbInitLocked s o).2 name defValue ioError
        else (⟨(dbInitLocked s o).1, none⟩, (dbInitLocked s o).2) := rfl
    -- whatever it returns, the table stays
    have hspec : (s.call sq (.get name defValue o ioError)).2 = (dbInitLocked s o).2 ∧
        ((s.call sq (.get name defValue o ioError)).1.rc = 0 →
          (s.call sq (.get name defValue o ioError)).1.value = some ((s.table name.text).getD ((defValue.map (·.text)).getD []))) := by
      rw [hcall]
      by_cases hinit : (dbInitLocked s o).1 = 0
      · have hrefused : quote ∉ name.text ∨ (dbInitLocked s o).2.Refused sq (selectSql name.text) := by
          unfold Store.Refused
          rw [htable]
          exact hname
        rw [if_pos hinit]
        rcases get_spec hsq (hopen hinit) name hrefused (by rw [htable]; exact hempty) ioError with heq | heq
        · rw [heq, htable]
          exact ⟨rfl, fun _ => rfl⟩
        · rw [heq]
          exact ⟨rfl, fun hrc => absurd (show (-1 : Int) = 0 from hrc) (by decide)⟩
      · rw [if_neg hinit]
        exact ⟨rfl, fun hrc => absurd hrc hinit⟩
    refine ⟨⟨by rw [hspec.1, hstale, h.fresh], fun name' defValue' o' ioError' heq hrc => ?_, fun _ _ _ _ heq => (nomatch heq)⟩, ?_, ?_⟩
    · cases heq
      rw [hspec.2 hrc, h.table, expected]
      cases latestSet calls name.text <;> rfl
    · rw [latestSet_concat, ← h.table, hspec.1]
      exact htable
    · rw [hspec.1, hstale, h.fresh]
  | set name value o ioError =>
    obtain ⟨husable, hname⟩ := hmeets
    obtain ⟨htable, hstale, hopen⟩ := dbInitLocked_spec husable o
    have hcall : s.call sq (.set name value o ioError) =
        if (dbInitLocked s o).1 = 0 then dbPropertySetLocked sq (dbInitLocked s o).2 name value ioError
        else (⟨(dbInitLocked s o).1, none⟩, (dbInitLocked s o).2) := rfl
    -- the value is put where the call returns 0, and nothing is changed where not
    have hspec : (s.call sq (.set name value o ioError)).2.staleUse = false ∧ (s.call sq (.set name value o ioError)).2.table =
        if (s.call sq (.set name value o ioError)).1.rc = 0 then Function.update s.table name.text (some value.text) else s.table := by
      rw [hcall]
      by_cases hinit : (dbInitLocked s o).1 = 0
      · have hrefused : quote ∉ name.text ∧ quote ∉ value.text ∨
            (dbInitLocked s o).2.Refused sq (insertSql name.text value.text) := by
          unfold Store.Refused
          rw [htable]
          exact hname
        rw [if_pos hinit]
        rcases set_spec hsq (hopen hinit) hrefused ioError with heq | heq
        · rw [heq, if_pos rfl, htable]
          exact ⟨hstale.trans h.fresh, rfl⟩
        · rw [heq, if_neg (show ¬ (-1 : Int) = 0 by decide)]
          exact ⟨hstale.trans h.fresh, htable⟩
      · rw [if_neg hinit, if_neg hinit]
        exact ⟨hstale.trans h.fresh, htable⟩
    refine ⟨⟨hspec.1, fun _ _ _ _ heq => (nomatch heq), fun name' value' o' ioError' heq other hother => ?_⟩, ?_, hspec.1⟩
    · cases heq
      rw [hspec.2]
      split
      · exact Function.update_of_ne hother _ _
      · rfl
    · rw [latestSet_concat, ← h.table]
      exact hspec.2
  | resetCleanup =>
    have hspec : (dbResetCleanupLocked s).2.table = s.table ∧ (dbResetCleanupLocked s).2.staleUse = s.staleUse := by
      unfold dbResetCleanupLocked
      split
      · exact ⟨rfl, rfl⟩
      next hdone =>
        rw [if_neg (not_not.2 (hmeets (not_not.1 hdone)))]
        exact ⟨rfl, rfl⟩
    refine ⟨⟨hspec.2.trans h.fresh, fun _ _ _ _ heq => (nomatch heq), fun _ _ _ _ heq => (nomatch heq)⟩, ?_, hspec.2.trans h.fresh⟩
    rw [latestSet_concat, ← h.table]
    exact hspec.1

/-- The runs whose calls meet the condition. -/
def MeetingCalls (sq : Sqlite) (s : Store) (c : Called) (t : Store) : Prop :=
  s.Calls sq c t ∧ s.Meets sq c.1

theorem Stored.of_run (hsq : sq.Documented) (h : Run (MeetingCalls sq) Store.initial calls s) : Stored calls s := by
  refine h.history Stored (fun calls s c t hc hs => ?_) stored_initial
  obtain ⟨c, result⟩ := c
  obtain ⟨hcall, hmeets⟩ := hc
  have hnext := (hs.call hsq hmeets).2
  rw [show s.call sq c = (result, t) from hcall] at hnext
  exact hnext

/-- **In every run of calls whose strings have no quote, or make a text that SQLite
refuses, and that make no use of the handle after it was closed, each call is
right**, a get of an empty value with a default apart. -/
theorem property_store (hsq : sq.Documented) (h : Run (MeetingCalls sq) Store.initial calls s) {c : Call} (hmeets : s.Meets sq c) :
    Right sq calls s c :=
  ((Stored.of_run hsq h).call hsq hmeets).1

/-! ## A reading of the statements -/

/-- What comes behind this beginning of the text. -/
def behind (head text : Text) : Option Text :=
  if head <+: text then some (text.drop head.length) else none

theorem behind_append (head rest : Text) : behind head (head ++ rest) = some rest := by
  unfold behind
  rw [if_pos (List.prefix_append _ _), List.drop_left]

theorem behind_short {head text : Text} (h : text.length < head.length) : behind head text = none := by
  unfold behind
  rw [if_neg]
  intro hpre
  have hle := hpre.length_le
  omega

def refuse (tbl : Table) : Executed := ⟨false, [], tbl⟩

/-- Behind the head of a get: one string, and nothing more. -/
def execSelect (tbl : Table) (rest : Text) : Executed :=
  match Lib.readQuoted quote rest with
  | some (name, []) => ⟨true, (tbl name).toList, tbl⟩
  | _ => refuse tbl

/-- Behind the head of a set: two strings, and the end of the list. -/
def execInsert (tbl : Table) (rest : Text) : Executed :=
  match Lib.readQuoted quote rest with
  | none => refuse tbl
  | some (name, rest) =>
    match (behind (ascii ", '") rest).bind (Lib.readQuoted quote) with
    | none => refuse tbl
    | some (value, rest) => if rest = ascii ")" then ⟨true, [], Function.update tbl name (some value)⟩ else refuse tbl

/-- SQLite, for the statements of the store: it reads the strings in them, and
refuses every other text. -/
def fragment : Sqlite where
  exec tbl text :=
    match behind selectHead text with
    | some rest => execSelect tbl rest
    | none =>
      match behind insertHead text with
      | some rest => execInsert tbl rest
      | none => refuse tbl

variable {tbl : Table} {name value : Text}

theorem fragment_select (tbl : Table) (rest : Text) : fragment.exec tbl (selectHead ++ rest) = execSelect tbl rest := by
  unfold fragment
  simp only [behind_append]

theorem fragment_insert (tbl : Table) (rest : Text) : fragment.exec tbl (insertHead ++ rest) = execInsert tbl rest := by
  have hselect : selectHead = 83 :: selectHead.tail := by decide +kernel
  have hinsert : insertHead = 73 :: insertHead.tail := by decide +kernel
  have hother : behind selectHead (insertHead ++ rest) = none := by
    unfold behind
    rw [if_neg]
    rw [hselect, hinsert, List.cons_append, List.cons_prefix_cons]
    exact fun h => absurd h.1 (by decide)
  unfold fragment
  simp only [hother, behind_append]

theorem execSelect_string (hname : quote ∉ name) : execSelect tbl (name ++ ascii "'") = ⟨true, (tbl name).toList, tbl⟩ := by
  have hquote : ascii "'" = [quote] := by decide
  unfold execSelect
  rw [hquote, Lib.readQuoted_plain hname (by simp)]

/-- A string without a quote that is cut before its end is refused. -/
theorem execSelect_cut (hname : quote ∉ name) {k : Nat} (hk : k ≤ name.length) :
    execSelect tbl ((name ++ ascii "'").take k) = refuse tbl := by
  have hopen : quote ∉ name.take k := fun h => hname (List.mem_of_mem_take h)
  unfold execSelect
  rw [List.take_append_of_le_length hk, Lib.readQuoted_open hopen]

/-- The second half of a set, from behind the first string. -/
def valueTail (value : Text) : Text := ascii ", '" ++ (value ++ ascii "')")

theorem valueTail_take_head (j : Nat) : ((valueTail value).take j).head? ≠ some quote := by
  have htail : valueTail value = 44 :: (valueTail value).tail := rfl
  rw [htail]
  cases j with
  | zero => simp
  | succ j =>
    rw [List.take_succ_cons, List.head?_cons]
    decide

theorem execInsert_string (hname : quote ∉ name) (j : Nat) :
    execInsert tbl (name ++ quote :: (valueTail value).take j) =
      match (behind (ascii ", '") ((valueTail value).take j)).bind (Lib.readQuoted quote) with
      | none => refuse tbl
      | some (value, rest) => if rest = ascii ")" then ⟨true, [], Function.update tbl name (some value)⟩ else refuse tbl := by
  unfold execInsert
  rw [Lib.readQuoted_plain hname (valueTail_take_head j)]

/-- The second string is read where it is all there. -/
theorem valueTail_read (hvalue : quote ∉ value) : (behind (ascii ", '") (valueTail value)).bind (Lib.readQuoted quote) = some (value, ascii ")") := by
  have hend : ascii "')" = quote :: ascii ")" := by decide
  unfold valueTail
  rw [behind_append, Option.bind_some, hend, Lib.readQuoted_plain hvalue (by decide)]

/-- And where it is cut, or the end of the list is, the statement is refused. -/
theorem valueTail_cut (hvalue : quote ∉ value) {j : Nat} (hj : j < (valueTail value).length) :
    (behind (ascii ", '") ((valueTail value).take j)).bind (Lib.readQuoted quote) = none ∨
      (behind (ascii ", '") ((valueTail value).take j)).bind (Lib.readQuoted quote) = some (value, []) := by
  have hsep : (ascii ", '").length = 3 := by decide
  have hend : ascii "')" = quote :: ascii ")" := by decide
  have hclose : (ascii ")").length = 1 := by decide
  have hlen : (valueTail value).length = 3 + (value.length + 2) := by
    unfold valueTail
    rw [List.length_append, List.length_append, hsep, hend, List.length_cons, hclose]
  by_cases hshort : j < 3
  · left
    rw [behind_short (by rw [List.length_take]; omega), Option.bind_none]
  · have htake : (valueTail value).take j = ascii ", '" ++ (value ++ ascii "')").take (j - 3) := by
      unfold valueTail
      rw [List.take_append, List.take_of_length_le (by omega), hsep]
    rw [htake, behind_append, Option.bind_some]
    by_cases hin : j - 3 ≤ value.length
    · left
      rw [List.take_append_of_le_length hin]
      exact Lib.readQuoted_open fun h => hvalue (List.mem_of_mem_take h)
    · right
      have hone : j - 3 = value.length + 1 := by omega
      rw [hone, hend, List.take_length_add_append]
      exact Lib.readQuoted_plain hvalue (by simp)

theorem insertSql_eq (name value : Text) : insertSql name value = insertHead ++ (name ++ quote :: valueTail value) := by
  have hmid : ascii "', '" = quote :: ascii ", '" := by decide
  unfold insertSql valueTail
  rw [hmid, List.append_assoc]
  rfl

theorem fragment_documented : fragment.Documented where
  select := by
    intro tbl name hname
    unfold selectSql
    rw [fragment_select, execSelect_string hname]
  insert := by
    intro tbl name value hname hvalue
    have hall : valueTail value = (valueTail value).take (valueTail value).length := List.take_length.symm
    rw [insertSql_eq, fragment_insert, hall, execInsert_string hname, ← hall, valueTail_read hvalue]
    simp only [if_true]
  selectCut := by
    intro tbl name n hname hle hlt
    have hquote : (ascii "'").length = 1 := by decide
    unfold selectSql at hlt ⊢
    rw [List.length_append, List.length_append, hquote] at hlt
    rw [List.take_append, List.take_of_length_le hle, fragment_select]
    exact execSelect_cut hname (by omega)
  insertCut := by
    intro tbl name value n hname hvalue hle hlt
    rw [insertSql_eq] at hlt ⊢
    rw [List.length_append, List.length_append, List.length_cons] at hlt
    rw [List.take_append, List.take_of_length_le hle, fragment_insert]
    by_cases hin : n - insertHead.length ≤ name.length
    · have hopen : quote ∉ name.take (n - insertHead.length) := fun h => hname (List.mem_of_mem_take h)
      unfold execInsert
      rw [List.take_append_of_le_length hin, Lib.readQuoted_open hopen]
      rfl
    · obtain ⟨j, hj⟩ : ∃ j, n - insertHead.length = name.length + (j + 1) := ⟨n - insertHead.length - name.length - 1, by omega⟩
      rw [hj, List.take_length_add_append, List.take_succ_cons, execInsert_string hname]
      rcases valueTail_cut hvalue (j := j) (by omega) with hread | hread
      · rw [hread]
        rfl
      · rw [hread]
        rfl

/-! ## Runs of it -/

def nameA : CString := ⟨ascii "a", by decide⟩

def valueB : CString := ⟨ascii "b", by decide⟩

def setAB : Call := .set nameA valueB .opened false

def getA : Call := .get nameA none .opened false

/-- The store in which `a` is `b`. -/
def storeAB : Store where
  doneInit := true
  handleOpen := true
  table := Function.update (fun _ => none) nameA.text (some valueB.text)
  staleUse := false

theorem call_setAB : Store.initial.call fragment setAB = (⟨0, none⟩, storeAB) := by
  have hfit : snprintf sqlSize (insertSql nameA.text valueB.text) = insertSql nameA.text valueB.text := by decide +kernel
  have hexec := fragment_documented.insert Store.initial.table nameA.text valueB.text (by decide) (by decide)
  change dbPropertySetLocked fragment ⟨true, true, Store.initial.table, false⟩ nameA valueB false = _
  unfold dbPropertySetLocked sqlite3Exec
  rw [if_neg (not_not.2 rfl), if_neg Bool.false_ne_true, hfit, hexec]
  rfl

theorem meets_setAB : Store.initial.Meets fragment setAB :=
  ⟨fun h => absurd h Bool.false_ne_true, .inl ⟨by decide, by decide⟩⟩

theorem run_setAB : Run (MeetingCalls fragment) Store.initial [(setAB, ⟨0, none⟩)] storeAB :=
  .cons (s := Store.initial) (t := storeAB) ⟨call_setAB, meets_setAB⟩ (.nil storeAB)

theorem property_store_read : Right fragment [(setAB, ⟨0, none⟩)] storeAB getA :=
  property_store fragment_documented run_setAB ⟨fun _ => rfl, .inl (by decide), fun _ => rfl⟩

/-- After the handle was closed the next get uses it: `done_init` is still set. -/
theorem not_property_store : ¬ ∀ sq : Sqlite, sq.Documented → ∀ calls s c,
    Run (fun s c t => s.Calls sq c t) Store.initial calls s → Right sq calls s c := by
  intro h
  have hinit : Store.initial.Calls fragment (.init .opened, ⟨0, none⟩) ⟨true, true, fun _ => none, false⟩ := rfl
  have hcleanup : Store.Calls fragment ⟨true, true, fun _ => none, false⟩ (.resetCleanup, ⟨0, none⟩) ⟨true, false, fun _ => none, false⟩ := rfl
  have hrun : Run (fun s c t => s.Calls fragment c t) Store.initial
      [(.init .opened, ⟨0, none⟩), (.resetCleanup, ⟨0, none⟩)] ⟨true, false, fun _ => none, false⟩ :=
    .cons hinit (.cons hcleanup (.nil _))
  have hright := h fragment fragment_documented _ _ getA hrun
  have hstale : (Store.call fragment ⟨true, false, fun _ => none, false⟩ getA).2.staleUse = true := rfl
  exact Bool.false_ne_true (hright.handle.symm.trans hstale)

end HiaeCommon.HtcrilDb
