import Breadboard.Proofs.Config.Respelling

/-! The identifiers of channels, pins and nodes that data gives, as they reach a
board; and configurations that do not depend on how their keys are spelled or
what is around them. -/

namespace Breadboard

/-- The entries of a table, under the texts of their keys. -/
def Value.dict (v : Value) : Table :=
  Dict.ofEntries (v.entries.map fun entry => (entry.1.toText, entry.2))

def Board.ids (b : Board) : (table : String) → List Text
  | "dac_channels" => b.dac.keys
  | "adc_channels" => b.adc.keys
  | "ina_sensors" => b.sensors.keys
  | "gpio_pins" => b.pins.keys
  | "nodes" => b.nodes.keys
  | _ => []

namespace Config

/-- The entries of a configuration in data: those inside `emulator`, if there is
a table. -/
def rootOf (data : Value) : Table :=
  let inner := field data.dict "emulator"
  if inner.isMapping then inner.dict else data.dict

/-- The entries for the board: those of the section of either name, the first
before the second. -/
def hardwareOf (data : Value) : Table :=
  let first := (field (rootOf data) "jumperless").dict
  if first.isEmpty then (field (rootOf data) "hardware_state").dict else first

/-- The identifiers that data gives in a table for the board. -/
def idsOf (data : Value) (table : String) : List Text := (field (hardwareOf data) table).dict.keys

end Config

namespace Key

variable {ids : Bool} {steps : Nat} {v w : Value} {d t inner : Table}

/-! Entries and their common spelling. -/

theorem forall₂_of_mapM_ok {α β : Type} {f : α → Except Fault β} {items : List α}
    {results : List β} (done : items.mapM f = .ok results) :
    List.Forall₂ (fun a b => f a = .ok b) items results := by
  induction items generalizing results with
  | nil =>
      cases done
      exact .nil
  | cons a items ih =>
      rw [List.mapM_cons] at done
      obtain ⟨b, first, done⟩ := Config.bind_eq_ok done
      obtain ⟨bs, rest, done⟩ := Config.bind_eq_ok done
      cases done
      exact .cons first (ih rest)

/-- An entry whose key stays as it is in its common spelling, over a value that
has its own. -/
structure Stays (ids : Bool) (entry : Value × Value) : Prop where
  key : (if ids then entry.1.toText else snake entry.1.toText) = entry.1.toText
  value : ∃ u, entry.2.Respelled (!ids && isIdTable entry.1.toText) u

theorem stays_of_mem (respelled : v.Respelled ids w) : ∀ entry ∈ v.entries, Stays ids entry := by
  intro entry member
  cases respelled with
  | leaf leaf =>
      cases v with
      | table => cases leaf
      | map => cases leaf
      | _ => cases member
  | list => cases member
  | mapping _ _ length keys parts =>
      obtain ⟨i, found⟩ := List.mem_iff_getElem?.1 member
      obtain ⟨inside, _⟩ := List.getElem?_eq_some_iff.1 found
      obtain ⟨other, there⟩ : ∃ other, w.entries[i]? = some other :=
        ⟨_, List.getElem?_eq_getElem (length ▸ inside)⟩
      have both : (entry, other) ∈ v.entries.zip w.entries :=
        List.mem_iff_getElem?.2 ⟨i, List.getElem?_zip_eq_some.2 ⟨found, there⟩⟩
      exact ⟨(keys _ both).stays, _, parts _ both⟩

def Alike (ids : Bool) (d t : Table) : Prop :=
  ∃ steps, d.Rel (fun key v w => (∃ u, v.Respelled (!ids && isIdTable key) u) ∧
    normal (!ids && isIdTable key) steps v = .ok w) t

theorem alike_of_normal (respelled : v.Respelled ids w)
    (spelled : normal ids steps v = .ok (.table t)) : Alike ids v.dict t := by
  obtain ⟨fewer, new, _, _, read, rfl⟩ := of_normal_table spelled
  refine ⟨fewer, Dict.rel_ofEntries (List.forall₂_map_left_iff.2 ?_)⟩
  have each := (List.forall₂_and_left _ _).2 ⟨stays_of_mem respelled, forall₂_of_mapM_ok read⟩
  refine each.imp fun entry new both => ?_
  obtain ⟨stays, spelled⟩ := both
  obtain ⟨key, part⟩ := of_normalPair spelled
  rw [stays.key] at key
  exact ⟨key.symm, stays.value, key ▸ part⟩

theorem Alike.keys (alike : Alike ids d t) : d.keys = t.keys := by
  obtain ⟨_, rel⟩ := alike
  exact rel.keys

theorem Alike.isEmpty (alike : Alike ids d t) : d.isEmpty = t.isEmpty := by
  obtain ⟨_, rel⟩ := alike
  cases rel <;> rfl

theorem Alike.nil : Alike ids [] [] := ⟨0, .nil⟩

/-- Under each key of alike entries is a value and its common spelling. -/
theorem Alike.field (alike : Alike ids d t) (key : String) :
    let mode := !ids && isIdTable (text key)
    (∃ u, (Config.field d key).Respelled mode u) ∧
      ∃ steps, normal mode steps (Config.field d key) = .ok (Config.field t key) := by
  obtain ⟨steps, rel⟩ := alike
  rw [Config.field, Config.field]
  rcases rel.get? (text key) with ⟨none, none'⟩ | ⟨v, w, some_, some', respelled, spelled⟩
  · rw [none, none']
    exact ⟨⟨.null, .leaf rfl⟩, 1, rfl⟩
  · rw [some_, some']
    exact ⟨respelled, steps, spelled⟩

theorem isMapping_iff (spelled : normal ids steps v = .ok w) :
    v.isMapping = true ↔ ∃ t, w = .table t := by
  constructor
  · intro mapping
    cases steps with
    | zero =>
        rw [normal] at spelled
        cases spelled
    | succ steps =>
        rw [normal_mapping mapping] at spelled
        obtain ⟨new, _, result⟩ := Config.bind_eq_ok spelled
        cases result
        exact ⟨_, rfl⟩
  · rintro ⟨t, rfl⟩
    obtain ⟨_, _, _, mapping, _⟩ := of_normal_table spelled
    exact mapping

theorem dict_of_not_mapping (other : ¬ v.isMapping = true) : v.dict = [] := by
  cases v with
  | table => exact absurd rfl other
  | map => exact absurd rfl other
  | _ => rfl

theorem Alike.inSection (alike : Alike false d t) {key : String}
    (inside : Config.section? t key = .ok inner) :
    Alike (isIdTable (text key)) (Config.field d key).dict inner := by
  obtain ⟨⟨u, respelled⟩, steps, spelled⟩ := alike.field key
  rw [Config.section?, Config.given] at inside
  split at inside
  · next found =>
      cases inside
      split at found
      · exact alike_of_normal respelled (spelled.trans (congrArg _ found))
      · next absent =>
          cases found
          by_cases mapping : (Config.field d key).isMapping = true
          · obtain ⟨t', same⟩ := (isMapping_iff spelled).1 mapping
            rw [same] at spelled absent
            have empty : t' = [] := by simpa [Value.isGiven] using absent
            exact empty ▸ alike_of_normal respelled spelled
          · rw [dict_of_not_mapping mapping]
            exact .nil
  · cases inside

end Key

namespace Config

variable {data w : Value} {t inner : Table} {key : String}

theorem alike_unwrap (alike : Key.Alike false data.dict t) :
    Key.Alike false (rootOf data) (unwrap t) := by
  obtain ⟨⟨u, respelled⟩, steps, spelled⟩ := alike.field "emulator"
  rw [rootOf, unwrap]
  split
  · next mapping =>
      obtain ⟨t', same⟩ := (Key.isMapping_iff spelled).1 mapping
      rw [same]
      exact Key.alike_of_normal respelled (same ▸ spelled)
  · next other =>
      split
      · next found => exact absurd ((Key.isMapping_iff spelled).2 ⟨_, found⟩) other
      · exact alike

theorem alike_hardware (alike : Key.Alike false (rootOf data) t)
    (found : boardTable t = .ok inner) : Key.Alike false (hardwareOf data) inner := by
  obtain ⟨first, inside, found⟩ := bind_eq_ok found
  have named := alike.inSection inside
  rw [hardwareOf]
  rw [named.isEmpty]
  split
  · next empty =>
      rw [if_pos empty] at found
      exact alike.inSection found
  · next some_ =>
      rw [if_neg some_] at found
      cases found
      exact named

/-- Each table of a board has the identifiers it had and those that data gives. -/
theorem ids_of_over {old b : Board} (alike : Key.Alike false (hardwareOf data) t)
    (tables : Reading.Over t old b) {table : String} (known : table ∈ Key.idTables) (id : Text) :
    id ∈ b.ids table ↔ id ∈ old.ids table ∨ id ∈ idsOf data table := by
  have each : ∀ {α : Type} {read : Text → Table → Reading α} {s : Table} {d d' : Dict α}
      {key : String}, section? t key = .ok s → Reading.putAll read s d = .ok d' →
      (id ∈ d'.keys ↔ id ∈ d.keys ∨ id ∈ idsOf data key) := by
    intro α read s d d' key inside done
    rw [← Dict.has_iff_mem_keys, ← Dict.has_iff_mem_keys, Reading.has_putAll done, idsOf,
      (alike.inSection inside).keys]
  simp only [Key.idTables, List.mem_cons, List.not_mem_nil, or_false] at known
  rcases known with rfl | rfl | rfl | rfl | rfl
  · obtain ⟨s, inside, done⟩ := tables.dac
    exact each inside done
  · obtain ⟨s, inside, done⟩ := tables.adc
    exact each inside done
  · obtain ⟨s, inside, done⟩ := tables.sensors
    exact each inside done
  · obtain ⟨s, inside, done⟩ := tables.pins
    exact each inside done
  · obtain ⟨s, inside, done⟩ := tables.nodes
    exact each inside done

theorem ids_of_ofValue {c : Config} (mapping : data.isMapping = true)
    (respelled : data.Respelled false w) (accepted : ofValue data = .ok c) {table : String}
    (known : table ∈ Key.idTables) (id : Text) :
    id ∈ c.board.ids table ↔ id ∈ Board.stock.ids table ∨ id ∈ idsOf data table := by
  rcases of_ofValue accepted with ⟨rfl, _⟩ | ⟨t, spelled, read⟩
  · cases mapping
  · obtain ⟨inner, found, made⟩ := (reads_of_ofTable read).board
    exact ids_of_over (alike_hardware (alike_unwrap (Key.alike_of_normal respelled spelled)) found)
      (Reading.over_of_boardOver made) known id

/-! Data inside `emulator`. -/

theorem ofValue_eq (mapping : data.isMapping = true) : ofValue data = ofTableData data := by
  cases data with
  | table => rfl
  | map => rfl
  | _ => cases mapping

theorem unwrap_of_not_mem (absent : text "emulator" ∉ t.keys) : unwrap t = t := by
  have missing : Dict.get? t (text "emulator") = none := by
    rw [← Dict.has_iff_mem_keys, Dict.has] at absent
    simpa using absent
  rw [unwrap, field, missing]
  rfl

theorem normal_around {k : Text} (common : Key.snake k = k) (plain : Key.isIdTable k = false)
    (steps : Nat) (data : Value) :
    Key.normal false (steps + 1) (.table [(k, data)]) =
      (Key.normal false steps data).map fun v => .table [(k, v)] := by
  have pair : Key.normalPair false steps (.text k, data) =
      (Key.normal false steps data).map fun v => (k, v) := by
    change (Key.normal (Key.isIdTable (Key.snake k)) steps data >>= fun v =>
      pure (Key.snake k, v)) = _
    rw [common, plain]
    cases Key.normal false steps data <;> rfl
  rw [Key.normal_mapping rfl, Value.entries, List.map_singleton, List.mapM_cons, List.mapM_nil,
    pair]
  cases Key.normal false steps data <;> rfl

theorem ofValue_wrapped (mapping : data.isMapping = true) (respelled : data.Respelled false w)
    (absent : text "emulator" ∉ data.dict.keys)
    (shallow : ∀ n x, data.Holds n x → n + 1 < Key.mostSteps) :
    ofValue (.table [(text "emulator", data)]) = ofValue data := by
  -- the number itself stays out of the way, or every step of it is taken
  obtain ⟨steps, most⟩ : ∃ steps, Key.mostSteps = steps + 1 := ⟨993, rfl⟩
  have deeper : Key.normal false (steps + 1) data = Key.normal false steps data :=
    Key.normal_succ fun n x held => by
      have := shallow n x held
      omega
  rw [ofValue_eq rfl, ofValue_eq mapping, ofTableData, ofTableData, most,
    normal_around (by decide) (by decide), deeper]
  cases spelled : Key.normal false steps data with
  | error fault => cases fault <;> rfl
  | ok v =>
      obtain ⟨t, rfl⟩ := (Key.isMapping_iff spelled).1 mapping
      rw [(Key.alike_of_normal respelled spelled).keys] at absent
      change ofTable t = ofTable (unwrap t)
      rw [unwrap_of_not_mem absent]

/-- However the keys of a configuration are spelled, it is read as the same; the
board has all identifiers of the section that is in effect as they are; and
within the most steps, `emulator` around it all makes no difference. -/
theorem spelling_and_wrapping {data other : Value} (mapping : data.isMapping = true)
    (respelled : data.Respelled false other) :
    ofValue other = ofValue data ∧
    (∀ c, ofValue data = .ok c → ∀ table ∈ Key.idTables, ∀ id,
      id ∈ c.board.ids table ↔ id ∈ Board.stock.ids table ∨ id ∈ idsOf data table) ∧
    (text "emulator" ∉ data.dict.keys → (∀ n x, data.Holds n x → n + 1 < Key.mostSteps) →
      ofValue (.table [(text "emulator", data)]) = ofValue data) := by
  refine ⟨?_, fun c accepted table known id => ids_of_ofValue mapping respelled accepted known id,
    ofValue_wrapped mapping respelled⟩
  have also : other.isMapping = true := by
    cases respelled with
    | leaf => exact mapping
    | list => cases mapping
    | mapping _ also => exact also
  rw [ofValue_eq mapping, ofValue_eq also, ofTableData, ofTableData, Key.normal_respelled respelled]

/-- An identifier that is the name of a table, with keys of two words outside and
inside. -/
def twisted (outer inside : Text) : Value :=
  .table [(text "jumperless", .table [(outer, .table [(text "nodes", .table [
    (inside, .int 5)])])])]

theorem twisted_respelled : (twisted (text "adc_channels") (text "max_value")).Respelled false
    (twisted (text "adcChannels") (text "max-value")) := by
  have outer : Key.Respelled false (text "adc_channels") (text "adcChannels") :=
    .capital (w := text "adc") (by decide) nofun (by decide) (by decide)
      (.last (w := text "channels") (by decide))
  have inside : Key.Respelled false (text "max_value") (text "max-value") :=
    .mark (w := text "max") (by decide) nofun (.inr rfl) (.last (w := text "value") (by decide))
  refine .table (.cons ⟨⟨_, _, rfl, rfl, .last (by decide)⟩, ?_⟩ .nil)
  refine .table (.cons ⟨⟨_, _, rfl, rfl, outer⟩, ?_⟩ .nil)
  refine .table (.cons ⟨rfl, ?_⟩ .nil)
  exact .table (.cons ⟨⟨_, _, rfl, rfl, inside⟩, .leaf rfl⟩ .nil)

theorem holds_single {k : Text} {v : Value} {most : Nat} (inside : ∀ n x, v.Holds n x → n ≤ most) :
    ∀ n x, (Value.table [(k, v)]).Holds n x → n ≤ most + 1 := by
  intro n x held
  cases held with
  | self => exact Nat.zero_le _
  | entry member inner =>
      cases List.mem_singleton.1 member
      exact Nat.succ_le_succ (inside _ x inner)

theorem twisted_read :
    let data := twisted (text "adc_channels") (text "max_value")
    let other := twisted (text "adcChannels") (text "max-value")
    data.Respelled false other ∧ ofValue other = ofValue data ∧
      (∃ c, ofValue data = .ok c ∧ (text "nodes" ∈ c.board.ids "adc_channels" ↔
        text "nodes" ∈ Board.stock.ids "adc_channels" ∨
          text "nodes" ∈ idsOf data "adc_channels")) ∧
      text "nodes" ∈ idsOf data "adc_channels" ∧
      ofValue (.table [(text "emulator", data)]) = ofValue data := by
  intro data other
  obtain ⟨same, ids, wrapped⟩ := @spelling_and_wrapping data other rfl twisted_respelled
  have shallow : ∀ n x, data.Holds n x → n + 1 < Key.mostSteps := by
    have leaf : ∀ n x, (Value.int 5).Holds n x → n ≤ 0 := by
      rintro n x ⟨⟩
      exact Nat.le_refl 0
    intro n x held
    have few := holds_single (holds_single (holds_single (holds_single leaf))) n x held
    exact Nat.lt_of_le_of_lt (Nat.succ_le_succ few) (by decide)
  exact ⟨twisted_respelled, same, ⟨_, rfl, ids _ rfl "adc_channels" (by decide) (text "nodes")⟩,
    by decide, wrapped (by decide) shallow⟩

/-- Lists inside each other. -/
def nested : Nat → Value
  | 0 => .null
  | n + 1 => .list [nested n]

theorem nested_respelled (n : Nat) : (nested n).Respelled false (nested n) := by
  induction n with
  | zero => exact .leaf rfl
  | succ n ih =>
      refine .list rfl fun p member => ?_
      cases List.mem_singleton.1 member
      exact ih

theorem normal_nested (n more : Nat) :
    Key.normal false (2 * n + more + 1) (nested n) = .ok (nested n) := by
  induction n with
  | zero => rfl
  | succ n ih =>
      rw [show 2 * (n + 1) + more + 1 = 2 * n + more + 1 + 1 + 1 by omega, nested, Key.normal,
        Key.normalItems_eq, List.mapM_cons,
        show 2 * n + more + 1 + 1 - 1 = 2 * n + more + 1 from rfl, ih]
      rfl

theorem normal_nested_deep {n steps : Nat} (few : steps ≤ 2 * n) :
    Key.normal false steps (nested n) = .error .tooDeep := by
  induction n generalizing steps with
  | zero =>
      rw [Nat.le_zero.1 few, Key.normal]
  | succ n ih =>
      cases steps with
      | zero => rw [Key.normal]
      | succ steps =>
          rw [nested, Key.normal, Key.normalItems_eq, List.mapM_cons, ih (by omega)]
          rfl

def sections : Value :=
  .table [(text "jumperless", .table [(text "nodes", .table [(text "D13", .table [])])]),
    (text "hardware_state", .table [(text "nodes", .table [(text "D12", .table [])])])]

def deepest : Value := .table [(text "x", nested 496)]

/-- The identifiers of the section that is not in effect do not reach the board;
and what is just not too deep is too deep with a table around it. -/
theorem left_behind :
    (sections.Respelled false sections ∧
      ∃ c, ofValue sections = .ok c ∧ text "D12" ∉ c.board.ids "nodes") ∧
    deepest.Respelled false deepest ∧ text "emulator" ∉ deepest.dict.keys ∧
      ofValue deepest = .ok stock ∧
      ofValue (.table [(text "emulator", deepest)]) = .error .tooDeep := by
  have word : ∀ key, Key.Word key → Value.KeysAlike false (.text key) (.text key) :=
    fun key own => ⟨key, key, rfl, rfl, .last own⟩
  have legacy : Key.Respelled false (text "hardware_state") (text "hardware_state") :=
    .mark (w := text "hardware") (by decide) nofun (.inl rfl)
      (.last (w := text "state") (by decide))
  have nodes : ∀ id, (Value.table [(text "nodes", .table [(id, .table [])])]).Respelled false
      (.table [(text "nodes", .table [(id, .table [])])]) := fun id =>
    .table (.cons ⟨word (text "nodes") (by decide),
      .table (.cons ⟨rfl, .table .nil⟩ .nil)⟩ .nil)
  refine ⟨⟨.table (.cons ⟨word _ (by decide), nodes _⟩
    (.cons ⟨⟨_, _, rfl, rfl, legacy⟩, nodes _⟩ .nil)), _, rfl, by decide⟩,
    .table (.cons ⟨word _ (by decide), nested_respelled 496⟩ .nil), by decide, ?_, ?_⟩
  · have spelled : Key.normal false Key.mostSteps deepest = .ok deepest := by
      refine (normal_around (by decide) (by decide) 993 (nested 496)).trans ?_
      rw [normal_nested 496 0]
      rfl
    rw [ofValue_eq rfl, ofTableData, spelled, deepest]
    generalize nested 496 = v
    rfl
  · have spelled : Key.normal false Key.mostSteps (.table [(text "emulator", deepest)]) =
        .error .tooDeep := by
      refine (normal_around (by decide) (by decide) 993 deepest).trans ?_
      rw [deepest, normal_around (by decide) (by decide) 992, normal_nested_deep (by decide)]
      rfl
    rw [ofValue_eq rfl, ofTableData, spelled]

end Config

end Breadboard
