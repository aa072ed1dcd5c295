import Mathlib
import RuleOverlay.Proofs.ShapeFit
import RuleOverlay.Proofs.ConfigText
import RuleOverlay.Loader
/-! # Loading a rules file

A rules file loads (`loadRules_spec`) exactly when it reads as a list of records, each an
object with a text path and, when it has processors, a list of envelopes (`RecordHolds`), and
every envelope of a kind the registry knows loads; each record then gives one rule, in order,
with its path and the processors of its envelopes of known kinds, in order (`RuleLoads`). A
file that does not read is malformed; otherwise loading stops at the first record with an
envelope that fails, and names its path with the fault of the first such envelope.

Every value the reader gives fits the shape of a rules file (`readShaped_fits`), so every record
read holds a path and envelopes, and loading finds them where `RecordHolds` says they are. A
record whose kinds are all known gets the processors the JSON modem reads from a text of the
same envelopes, and fails where the modem fails.
-/
namespace RuleOverlay

open Json

/-! ### Steps that may fail, over a list -/

section Except

variable {α β γ ε δ : Type}

theorem map_eq_ok_iff {g : β → γ} {x : Except ε β} {c : γ} :
    g <$> x = .ok c ↔ ∃ b, x = .ok b ∧ g b = c := by
  cases x <;> simp [Functor.map, Except.map]

theorem map_eq_error_iff {g : β → γ} {x : Except ε β} {e : ε} : g <$> x = .error e ↔ x = .error e := by
  cases x <;> simp [Functor.map, Except.map]

theorem mapError_eq_ok_iff {h : ε → δ} {x : Except ε β} {b : β} : x.mapError h = .ok b ↔ x = .ok b := by
  cases x <;> simp [Except.mapError]

theorem mapError_eq_error_iff {h : ε → δ} {x : Except ε β} {d : δ} :
    x.mapError h = .error d ↔ ∃ e, x = .error e ∧ h e = d := by
  cases x <;> simp [Except.mapError]

variable {f : α → Except ε β}

theorem mapM_mapError (h : ε → δ) :
    ∀ l : List α, (l.mapM fun a => (f a).mapError h) = (l.mapM f).mapError h
  | [] => rfl
  | a :: l => by
    rw [List.mapM_cons, List.mapM_cons, mapM_mapError h l]
    cases f a <;> cases l.mapM f <;> rfl

theorem mapM_eq_ok_iff : ∀ {l : List α} {bs : List β},
    l.mapM f = .ok bs ↔ List.Forall₂ (fun a b => f a = .ok b) l bs
  | [], bs => by
    cases bs <;> simp [pure, Except.pure]
  | a :: l, bs => by
    rw [List.mapM_cons]
    cases ha : f a with
    | error e => cases bs <;> simp [bind, Except.bind, ha]
    | ok b =>
      cases bs with
      | nil => cases l.mapM f <;> simp [bind, Except.bind, pure, Except.pure]
      | cons b' bs =>
        rw [List.forall₂_cons, ← mapM_eq_ok_iff]
        cases l.mapM f <;> simp [bind, Except.bind, pure, Except.pure, ha, and_comm]

def FirstFault (f : α → Except ε β) (l : List α) (e : ε) : Prop :=
  ∃ pre a post, l = pre ++ a :: post ∧ (∀ x ∈ pre, ∃ b, f x = .ok b) ∧ f a = .error e

theorem firstFault_nil (e : ε) : ¬FirstFault f [] e := by
  rintro ⟨pre, a, post, hl, -, -⟩
  simp at hl

theorem firstFault_cons_of_ok {a : α} {b : β} (ha : f a = .ok b) {l : List α} {e : ε} :
    FirstFault f (a :: l) e ↔ FirstFault f l e := by
  constructor
  · rintro ⟨pre, x, post, hl, hPre, hx⟩
    cases pre with
    | nil =>
      obtain ⟨rfl, -⟩ := List.cons_eq_cons.mp hl
      simp [ha] at hx
    | cons p pre =>
      obtain ⟨-, rfl⟩ := List.cons_eq_cons.mp hl
      exact ⟨pre, x, post, rfl, fun y hy => hPre y (List.mem_cons_of_mem _ hy), hx⟩
  · rintro ⟨pre, x, post, rfl, hPre, hx⟩
    refine ⟨a :: pre, x, post, rfl, fun y hy => ?_, hx⟩
    rcases List.mem_cons.mp hy with rfl | hy
    · exact ⟨b, ha⟩
    · exact hPre y hy

theorem firstFault_cons_of_error {a : α} {e' : ε} (ha : f a = .error e') {l : List α} {e : ε} :
    FirstFault f (a :: l) e ↔ e' = e := by
  constructor
  · rintro ⟨pre, x, post, hl, hPre, hx⟩
    cases pre with
    | nil =>
      obtain ⟨rfl, -⟩ := List.cons_eq_cons.mp hl
      simpa [ha] using hx
    | cons p pre =>
      obtain ⟨hp, -⟩ := List.cons_eq_cons.mp hl
      obtain ⟨b, hb⟩ := hPre p List.mem_cons_self
      simp [← hp, ha] at hb
  · rintro rfl
    exact ⟨[], a, l, rfl, by simp, ha⟩

theorem mapM_eq_error_iff : ∀ {l : List α} {e : ε}, l.mapM f = .error e ↔ FirstFault f l e
  | [], e => by simp [firstFault_nil, pure, Except.pure]
  | a :: l, e => by
    rw [List.mapM_cons]
    cases ha : f a with
    | error e' => simp [bind, Except.bind, firstFault_cons_of_error ha]
    | ok b =>
      rw [firstFault_cons_of_ok ha, ← mapM_eq_error_iff]
      cases l.mapM f <;> simp [bind, Except.bind, pure, Except.pure]

end Except

/-! ### Records and envelopes -/

def EnvelopeHolds (item : Value) (env : Envelope) : Prop :=
  ∃ es, item = .object es ∧ Entries.get? es "type" = some (.string env.kind) ∧
    Entries.get? es "data" = some env.data

def RecordHolds (record : Value) (path : String) (envs : List Envelope) : Prop :=
  ∃ es, record = .object es ∧ Entries.get? es "path" = some (.string path) ∧
    (Entries.get? es "processors" = none ∧ envs = [] ∨
      ∃ items, Entries.get? es "processors" = some (.array items) ∧
        List.Forall₂ EnvelopeHolds items envs)

section Records

variable {item record : Value} {env : Envelope} {path : String} {envs : List Envelope}

theorem envelopeOf_of_holds (h : EnvelopeHolds item env) : envelopeOf item = env := by
  obtain ⟨es, rfl, hType, hData⟩ := h
  simp [envelopeOf, hType, hData]

theorem map_envelopeOf {items : List Value} (h : List.Forall₂ EnvelopeHolds items envs) :
    items.map envelopeOf = envs := by
  induction h with
  | nil => rfl
  | cons hHead _ ih => rw [List.map_cons, envelopeOf_of_holds hHead, ih]

theorem RecordHolds.unique {path' : String} {envs' : List Envelope}
    (h : RecordHolds record path envs) (h' : RecordHolds record path' envs') :
    path = path' ∧ envs = envs' := by
  obtain ⟨es, rfl, hPath, hProcs⟩ := h
  obtain ⟨es', hEq, hPath', hProcs'⟩ := h'
  cases hEq
  refine ⟨by simpa [hPath] using hPath', ?_⟩
  rcases hProcs with ⟨hNone, rfl⟩ | ⟨items, hSome, hItems⟩ <;>
    rcases hProcs' with ⟨hNone', rfl⟩ | ⟨items', hSome', hItems'⟩
  · rfl
  · simp [hNone] at hSome'
  · simp [hSome] at hNone'
  · have hSame : items = items' := by simpa [hSome] using hSome'
    rw [← map_envelopeOf hItems, ← map_envelopeOf hItems', hSame]

theorem envelopeHolds_of_fits (h : envelopeShape.Fits item) :
    EnvelopeHolds item (envelopeOf item) := by
  unfold envelopeShape at h
  cases h with
  | record hEntries hRequired =>
    rename_i es
    have hFits : (Shape.record "ProcessorEnvelope" [("type", .string), ("data", .any)]).Fits
        (.object es) := .record hEntries hRequired
    obtain ⟨kind, hType⟩ := hFits.get?_required (show ("type", Shape.string) ∈ _ by simp) rfl
    obtain ⟨d, hData⟩ := hFits.get?_required (show ("data", Shape.any) ∈ _ by simp) rfl
    obtain ⟨s, hField, hKind⟩ := hFits.get?_record hType
    have hs : s = .string := by simpa using hField
    subst hs
    obtain ⟨t, rfl⟩ := hKind.text_string
    exact ⟨es, rfl, by simp [envelopeOf, hType], by simp [envelopeOf, hData]⟩

theorem recordsHold_of_fits {v : Value} (h : rulesShape.Fits v) :
    ∃ records, v = .array records ∧ ∀ r ∈ records, ∃ path envs, RecordHolds r path envs := by
  unfold rulesShape at h
  cases h with
  | list hRecords =>
    refine ⟨_, rfl, fun r hr => ?_⟩
    have hRecord := hRecords r hr
    cases hRecord with
    | record hEntries hRequired =>
      rename_i es
      have hFits : (Shape.record "RuleRecord"
          [("path", .string), ("processors", .defaulted (.list envelopeShape))]).Fits
          (.object es) := .record hEntries hRequired
      obtain ⟨pv, hPath⟩ := hFits.get?_required (show ("path", Shape.string) ∈ _ by simp) rfl
      obtain ⟨s, hField, hPathText⟩ := hFits.get?_record hPath
      have hs : s = .string := by simpa using hField
      subst hs
      obtain ⟨path, rfl⟩ := hPathText.text_string
      cases hProcs : Entries.get? es "processors" with
      | none => exact ⟨path, [], es, rfl, hPath, .inl ⟨hProcs, rfl⟩⟩
      | some pv =>
        obtain ⟨s, hField, hList⟩ := hFits.get?_record hProcs
        have hs : s = .defaulted (.list envelopeShape) := by simpa using hField
        subst hs
        cases hList with
        | defaulted hList =>
          cases hList with
          | list hItems =>
            rename_i items
            refine ⟨path, items.map envelopeOf, es, rfl, hPath, .inr ⟨items, hProcs, ?_⟩⟩
            rw [List.forall₂_map_right_iff]
            exact List.forall₂_same.mpr fun x hx => envelopeHolds_of_fits (hItems x hx)

end Records

/-! ### The rule of a record -/

/-- A record that loads as a rule: the rule has the record's path and the processors its
envelopes of known kinds load, in order. -/
def RuleLoads (registry : Registry) (now : Timestamp) (record : Value) (rule : Rule) : Prop :=
  ∃ envs, RecordHolds record rule.path envs ∧
    List.Forall₂ (fun env p => registry.loadEnvelope env now = .ok p)
      (envs.filter (registry.contains ·.kind)) rule.processors

section Rule

variable {registry : Registry} {now : Timestamp} {record : Value} {path : String}
  {envs : List Envelope}

theorem ruleOfRecord_of_holds (h : RecordHolds record path envs) :
    ruleOfRecord registry now record = Rule.mk path <$>
      ((envs.filter (registry.contains ·.kind)).mapM (registry.loadEnvelope · now)).mapError
        (.invalidProcessor path) := by
  obtain ⟨es, rfl, hPath, hProcs⟩ := h
  simp only [ruleOfRecord, hPath]
  rw [← mapM_mapError, ← bind_pure_comp]
  congr 3
  rcases hProcs with ⟨hNone, rfl⟩ | ⟨items, hSome, hItems⟩
  · simp only [hNone]
  · simp only [hSome, map_envelopeOf hItems]

theorem ruleOfRecord_eq_ok_iff (h : RecordHolds record path envs) {rule : Rule} :
    ruleOfRecord registry now record = .ok rule ↔ RuleLoads registry now record rule := by
  rw [ruleOfRecord_of_holds h, map_eq_ok_iff]
  constructor
  · rintro ⟨ps, hps, rfl⟩
    exact ⟨envs, h, mapM_eq_ok_iff.mp (mapError_eq_ok_iff.mp hps)⟩
  · rintro ⟨envs', h', hLoads⟩
    obtain ⟨hPath, rfl⟩ := h.unique h'
    exact ⟨rule.processors, mapError_eq_ok_iff.mpr (mapM_eq_ok_iff.mpr hLoads), by rw [hPath]⟩

theorem ruleOfRecord_eq_error_iff (h : RecordHolds record path envs) {err : LoadError} :
    ruleOfRecord registry now record = .error err ↔
      ∃ e, err = .invalidProcessor path e ∧
        FirstFault (registry.loadEnvelope · now) (envs.filter (registry.contains ·.kind)) e := by
  rw [ruleOfRecord_of_holds h, map_eq_error_iff, mapError_eq_error_iff]
  simp only [mapM_eq_error_iff]
  constructor
  · rintro ⟨e, hFault, rfl⟩
    exact ⟨e, rfl, hFault⟩
  · rintro ⟨e, rfl, hFault⟩
    exact ⟨e, hFault, rfl⟩

/-- A record whose kinds are all known gets the processors the JSON modem reads from a text of
the same envelopes, and otherwise the modem's fault, named by the record's path. -/
theorem ruleOfRecord_agrees_unmarshal (h : RecordHolds record path envs)
    (hKnown : ∀ env ∈ envs, registry.contains env.kind) {B : Bytes} {w : Value}
    (hRead : readShaped envelopesShape B = .ok w) (hEnvs : envelopesOf w = envs) :
    Rule.processors <$> ruleOfRecord registry now record =
      ((Modem.general .json registry).unmarshal B now).mapError (.invalidProcessor path) := by
  have hAll : envs.filter (registry.contains ·.kind) = envs := List.filter_eq_self.mpr hKnown
  rw [ruleOfRecord_of_holds h, hAll]
  simp only [Modem.unmarshal, hRead]
  show _ = Except.mapError _ ((envelopesOf w).mapM (registry.loadEnvelope · now))
  rw [hEnvs, Functor.map_map]
  exact id_map _

end Rule

/-! ### The text of an envelope list -/

namespace Json

section ShapedList

variable {d : Nat} {rest : Bytes}

theorem readsBack_text_plain {expecting s : String} {check : String → Option String}
    (h : check s = none) : ReadsBack d (.text expecting check) (.string s) := by
  intro F rest hFuel _
  obtain ⟨F, rfl⟩ : ∃ F', F = F' + 1 := ⟨F - 1, by rw [toBytes_string] at hFuel; simp at hFuel; omega⟩
  exact reads_shaped_text h

theorem readsBack_any {v : Value} (hv : v.Plain) (hDepth : v.depth < d) : ReadsBack d .any v := by
  intro F rest hFuel hRest
  obtain ⟨b, X, hbX, -⟩ := toBytes_head hv.2
  obtain ⟨F, rfl⟩ : ∃ F', F = F' + 1 := ⟨F - 1, by rw [hbX, List.length_cons] at hFuel; omega⟩
  rw [shaped]
  exact reads_anyValue (F + 1) d v rest hv hDepth hFuel hRest

/-- Printed items read back against an item shape, one after another up to the closing
bracket, when the shape reads each of them back. -/
theorem reads_shapedItems {item : Shape} : ∀ (F : Nat) (first : Bool) (items acc : List Value)
    (rest : Bytes), (∀ x ∈ items, x.Numbers Number.Exact ∧ ReadsBack d item x) →
    (itemsText first items).length < F →
    Reads (shapedItems F d item first acc) (itemsText first items) (0x5D :: rest)
      (acc.reverse ++ items)
  | 0, _, _, _, _, _, hFuel => absurd hFuel (Nat.not_lt_zero _)
  | F + 1, first, [], acc, rest, _, _ => by
    rw [shapedItems, List.append_nil]
    exact (reads_nextItem_close first rest).bind_last (reads_pure _ _)
  | F + 1, first, v :: items, acc, rest, hItems, hFuel => by
    obtain ⟨hv, hBack⟩ := hItems v List.mem_cons_self
    obtain ⟨b, X, hbX, h1, h2, h3⟩ := toBytes_head hv
    have hNext := reads_nextItem_item first h1 h2 h3 (X ++ (itemsText false items ++ 0x5D :: rest))
    rw [← List.cons_append, ← hbX, ← List.append_assoc] at hNext
    rw [itemsText_cons] at hFuel ⊢
    have hOne : 1 ≤ v.toBytes.length := by rw [hbX, List.length_cons]; omega
    simp only [List.length_append] at hFuel
    rw [shapedItems]
    refine hNext.bind ?_
    rw [if_pos rfl]
    have hValue := hBack F (itemsText false items ++ 0x5D :: rest) (by omega)
      (closer_itemsText items rest)
    have hRest := reads_shapedItems F false items (v :: acc) rest
      (fun x hx => hItems x (List.mem_cons_of_mem v hx)) (by omega)
    rw [List.reverse_cons, List.append_assoc, List.singleton_append] at hRest
    exact hValue.bind hRest

theorem reads_shaped_list {F : Nat} {item : Shape} {items : List Value} (hd : 1 < d)
    (hItems : Reads (shapedItems F (d - 1) item true []) (itemsText true items) (0x5D :: rest)
      items) :
    Reads (shaped (F + 1) d (.list item)) (Value.array items).toBytes rest (.array items) := by
  rw [shaped, toBytes_array, encode_renderItems, ← List.nil_append (0x5B :: _)]
  refine (reads_skipSpace_cons (by decide) _).bind ?_
  simp +decide only
  rw [if_neg (by omega), ← List.singleton_append]
  exact (reads_bump 0x5B _).bind
    ((hItems.container (reads_endList rest)).bind_last (reads_pure _ _))

end ShapedList

end Json

theorem readsBack_envelope {d : Nat} (hd : 1 < d) {env : Envelope} (hData : env.data.Plain)
    (hDepth : env.data.depth < d - 1) :
    ReadsBack d envelopeShape (.object [("type", .string env.kind), ("data", env.data)]) := by
  intro F rest hFuel hRest
  have hLen : (Value.object [("type", .string env.kind), ("data", env.data)]).toBytes.length =
      (entriesText true [("type", .string env.kind), ("data", env.data)]).length + 2 := by
    rw [toBytes_object, encode_renderEntries]
    simp
  obtain ⟨F, rfl⟩ : ∃ F', F = F' + 1 := ⟨F - 1, by omega⟩
  have hEntries := @reads_recordEntries (d - 1) [("type", .string), ("data", .any)] F true
    [("type", .string env.kind), ("data", env.data)] [] rest
    (fun e he => by
      simp only [List.mem_cons, List.not_mem_nil, or_false] at he
      rcases he with rfl | rfl
      · exact ⟨_, rfl, (readsBack_text_plain rfl).field⟩
      · exact ⟨_, rfl, (readsBack_any hData hDepth).field⟩)
    (by simp [Entries.keys]) (by omega)
  have hRecord := @reads_shaped_record F d rest "ProcessorEnvelope" _ _ hd hEntries rfl
  have hOut : [("type", Shape.string), ("data", Shape.any)].filterMap
      (fun f => [("type", Value.string env.kind), ("data", env.data)].find? (·.1 == f.1)) =
      [("type", .string env.kind), ("data", env.data)] := by
    simp
  rw [hOut] at hRecord
  exact hRecord

/-- The JSON text of an envelope list reads back against the shape of an envelope list as the
list itself, when the data of every envelope is plain and nests less than the reader allows. -/
theorem readShaped_envelopesValue {envs : List Envelope}
    (hData : ∀ env ∈ envs, env.data.Plain ∧ env.data.depth < depthLimit - 2) :
    readShaped envelopesShape (envelopesValue envs).toBytes = .ok (envelopesValue envs) := by
  let items := envs.map fun e => Value.object [("type", .string e.kind), ("data", e.data)]
  have hValue : envelopesValue envs = .array items := rfl
  have hItems : ∀ x ∈ items,
      x.Numbers Number.Exact ∧ ReadsBack (depthLimit - 1) envelopeShape x := by
    intro x hx
    obtain ⟨env, hEnv, rfl⟩ := List.mem_map.mp hx
    obtain ⟨hPlain, hDepth⟩ := hData env hEnv
    refine ⟨.object fun e he => ?_, readsBack_envelope (by decide) hPlain (by omega)⟩
    simp only [List.mem_cons, List.not_mem_nil, or_false] at he
    rcases he with rfl | rfl
    · exact .string _
    · exact hPlain.2
  have hLen : (Value.array items).toBytes.length = (itemsText true items).length + 2 := by
    rw [toBytes_array, encode_renderItems]
    simp
  have hRead := reads_shapedItems (2 * (Value.array items).toBytes.length + 3) true items [] []
    hItems (by omega)
  rw [List.reverse_nil, List.nil_append] at hRead
  have hList := reads_shaped_list (by decide) hRead
  rw [hValue, readShaped, run_bind, show envelopesShape = .list envelopeShape from rfl,
    show 2 * (Value.array items).toBytes.length + 4 = 2 * (Value.array items).toBytes.length + 3 + 1
      from rfl]
  have hRun := hList (Value.array items).toBytes 0
  rw [List.append_nil] at hRun
  rw [hRun]
  rfl

/-! ### A whole file -/

section File

variable {registry : Registry} {now : Timestamp} {data : Bytes}

theorem loadRules_of_read_error {e : Json.Error} (hRead : readShaped rulesShape data = .error e) :
    loadRules registry data now = .error (.malformed e) := by
  simp only [loadRules, hRead]
  rfl

theorem loadRules_of_read {records : List Value}
    (hRead : readShaped rulesShape data = .ok (.array records)) :
    loadRules registry data now = records.mapM (ruleOfRecord registry now) := by
  simp only [loadRules, hRead]
  rfl

variable {records : List Value} (hHold : ∀ r ∈ records, ∃ path envs, RecordHolds r path envs)
include hHold

theorem mapM_ruleOfRecord_eq_ok_iff {rules : List Rule} :
    records.mapM (ruleOfRecord registry now) = .ok rules ↔
      List.Forall₂ (RuleLoads registry now) records rules := by
  rw [mapM_eq_ok_iff]
  constructor
  · intro hSteps
    refine ((List.forall₂_and_left _ _).mpr ⟨hHold, hSteps⟩).imp ?_
    rintro r rule ⟨⟨path, envs, h⟩, hStep⟩
    exact (ruleOfRecord_eq_ok_iff h).mp hStep
  · intro hLoads
    refine ((List.forall₂_and_left _ _).mpr ⟨hHold, hLoads⟩).imp ?_
    rintro r rule ⟨⟨path, envs, h⟩, hLoad⟩
    exact (ruleOfRecord_eq_ok_iff h).mpr hLoad

/-- Records that all hold a path and envelopes fail to load at the first record with an
envelope of a known kind that fails, named by its path. -/
theorem mapM_ruleOfRecord_eq_error_iff {err : LoadError} :
    records.mapM (ruleOfRecord registry now) = .error err ↔
      ∃ pre record post path envs e, records = pre ++ record :: post ∧
        (∀ r ∈ pre, ∃ rule, RuleLoads registry now r rule) ∧ RecordHolds record path envs ∧
        err = .invalidProcessor path e ∧
        FirstFault (registry.loadEnvelope · now) (envs.filter (registry.contains ·.kind)) e := by
  have hLoads : ∀ r ∈ records, (∃ rule, ruleOfRecord registry now r = .ok rule) ↔
      ∃ rule, RuleLoads registry now r rule := fun r hr => by
    obtain ⟨path, envs, h⟩ := hHold r hr
    simp only [ruleOfRecord_eq_ok_iff h]
  rw [mapM_eq_error_iff]
  constructor
  · rintro ⟨pre, record, post, rfl, hPre, hFault⟩
    obtain ⟨path, envs, h⟩ := hHold record (by simp)
    obtain ⟨e, rfl, hFirst⟩ := (ruleOfRecord_eq_error_iff h).mp hFault
    refine ⟨pre, record, post, path, envs, e, rfl, fun r hr => ?_, h, rfl, hFirst⟩
    exact (hLoads r (by simp [hr])).mp (hPre r hr)
  · rintro ⟨pre, record, post, path, envs, e, rfl, hPre, h, rfl, hFirst⟩
    refine ⟨pre, record, post, rfl, fun r hr => ?_, (ruleOfRecord_eq_error_iff h).mpr ⟨e, rfl, hFirst⟩⟩
    exact (hLoads r (by simp [hr])).mpr (hPre r hr)

end File

/-- A file either does not read, and is malformed, or reads as records that all hold a path and
envelopes, and loads as they do. -/
theorem loadRules_cases (registry : Registry) (data : Bytes) (now : Timestamp) :
    (∃ e, readShaped rulesShape data = .error e ∧
        loadRules registry data now = .error (.malformed e)) ∨
      ∃ records, readShaped rulesShape data = .ok (.array records) ∧
        (∀ r ∈ records, ∃ path envs, RecordHolds r path envs) ∧
        loadRules registry data now = records.mapM (ruleOfRecord registry now) := by
  cases hRead : readShaped rulesShape data with
  | error e => exact .inl ⟨e, rfl, loadRules_of_read_error hRead⟩
  | ok v =>
    obtain ⟨records, rfl, hHold⟩ := recordsHold_of_fits (readShaped_fits hRead)
    exact .inr ⟨records, rfl, hHold, loadRules_of_read hRead⟩

/-- Loading a rules file. It gives rules exactly when the file reads as a list of records and
each record loads as a rule, one rule a record in order; it fails as malformed exactly when the
file does not read, and otherwise exactly at the first record with an envelope of a known kind
that fails, with the path of that record and the fault of the first such envelope. A record
whose kinds are all known gets the processors the JSON modem of the same registry reads from
any text of its envelopes, and fails where the modem fails. -/
theorem loadRules_spec (registry : Registry) (data : Bytes) (now : Timestamp) :
    (∀ rules, loadRules registry data now = .ok rules ↔
      ∃ records, readShaped rulesShape data = .ok (.array records) ∧
        List.Forall₂ (RuleLoads registry now) records rules) ∧
    (∀ err, loadRules registry data now = .error err ↔
      (∃ e, readShaped rulesShape data = .error e ∧ err = .malformed e) ∨
        ∃ records pre record post path envs e,
          readShaped rulesShape data = .ok (.array records) ∧ records = pre ++ record :: post ∧
          (∀ r ∈ pre, ∃ rule, RuleLoads registry now r rule) ∧ RecordHolds record path envs ∧
          err = .invalidProcessor path e ∧
          FirstFault (registry.loadEnvelope · now) (envs.filter (registry.contains ·.kind)) e) ∧
    ∀ record path envs, RecordHolds record path envs →
      (∀ env ∈ envs, registry.contains env.kind) →
      ∀ B w, readShaped envelopesShape B = .ok w → envelopesOf w = envs →
        Rule.processors <$> ruleOfRecord registry now record =
          ((Modem.general .json registry).unmarshal B now).mapError (.invalidProcessor path) := by
  refine ⟨fun rules => ?_, fun err => ?_, fun record path envs h hKnown B w hRead hEnvs =>
    ruleOfRecord_agrees_unmarshal h hKnown hRead hEnvs⟩
  · rcases loadRules_cases registry data now with
      ⟨e, hRead, hLoad⟩ | ⟨records, hRead, hHold, hLoad⟩
    · simp [hRead, hLoad]
    · simp [hRead, hLoad, mapM_ruleOfRecord_eq_ok_iff hHold]
  · rcases loadRules_cases registry data now with
      ⟨e, hRead, hLoad⟩ | ⟨records, hRead, hHold, hLoad⟩
    · simp [hRead, hLoad, eq_comm]
    · simp [hRead, hLoad, mapM_ruleOfRecord_eq_error_iff hHold]

theorem loadRules_spec_tile :
    RecordHolds (.object [("path", .string "/"), ("processors", envelopesValue [⟨"tile", .null⟩])])
        "/" [⟨"tile", .null⟩] ∧
      (∀ env ∈ [(⟨"tile", .null⟩ : Envelope)], Registry.standard.contains env.kind) ∧
      readShaped envelopesShape (envelopesValue [⟨"tile", .null⟩]).toBytes =
        .ok (envelopesValue [⟨"tile", .null⟩]) ∧
      envelopesOf (envelopesValue [⟨"tile", .null⟩]) = [⟨"tile", .null⟩] ∧
      Rule.processors <$> ruleOfRecord Registry.standard ⟨0, 0⟩
          (.object [("path", .string "/"), ("processors", envelopesValue [⟨"tile", .null⟩])]) =
        ((Modem.general .json Registry.standard).unmarshal
          (envelopesValue [⟨"tile", .null⟩]).toBytes ⟨0, 0⟩).mapError (.invalidProcessor "/") := by
  have hHolds : RecordHolds (.object [("path", .string "/"),
      ("processors", envelopesValue [⟨"tile", .null⟩])]) "/" [⟨"tile", .null⟩] :=
    ⟨_, rfl, rfl, .inr ⟨_, rfl, .cons ⟨_, rfl, rfl, rfl⟩ .nil⟩⟩
  have hKnown : ∀ env ∈ [(⟨"tile", .null⟩ : Envelope)], Registry.standard.contains env.kind := by
    decide
  have hRead : readShaped envelopesShape (envelopesValue [⟨"tile", .null⟩]).toBytes =
      .ok (envelopesValue [⟨"tile", .null⟩]) :=
    readShaped_envelopesValue (by simp only [List.mem_singleton, forall_eq]; exact ⟨⟨.null, .null⟩, by decide⟩)
  exact ⟨hHolds, hKnown, hRead, rfl,
    (loadRules_spec Registry.standard [] ⟨0, 0⟩).2.2 _ _ _ hHolds hKnown _ _ hRead rfl⟩

end RuleOverlay
