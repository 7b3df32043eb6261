import Breadboard.Config.File
import Breadboard.Proofs.Config.Spelling

/-! Which faults of a configuration are told as such. Those that are not come of
something in the data that is too much: a number, a pattern, or a nesting. -/

namespace Breadboard.Config

/-- What is too much about a value by itself: an infinite number, an integer that
is beyond all floats, and a mapping with a pattern that counts too far or has
groups inside too many others. -/
inductive Excessive : Value → Fault → Prop
  | infinite {x : Float} {negative : Bool}
      (endless : FloatKind.of x = .infinite negative) :
      Excessive (.float x) .tooLarge
  | integer {i : Int} (large : floatOfInt? i = none) :
      Excessive (.int i) .tooLarge
  | count {t : Table} {request : Value}
      (asked : Dict.get? t (text "request") = some request)
      (pattern : (field t "is_regex").isGiven = true)
      (read : Regex.read request.toText = .error .tooMany) :
      Excessive (.table t) .tooLarge
  | groups {t : Table} {request : Value}
      (asked : Dict.get? t (text "request") = some request)
      (pattern : (field t "is_regex").isGiven = true)
      (read : Regex.read request.toText = .error .tooDeep) :
      Excessive (.table t) .tooDeep

/-- A reading of which every fault is told, or comes of something in a value that
is too much. -/
def Grounded {α : Type} (v : Value) (x : Reading α) : Prop :=
  ∀ ⦃fault⦄, x = .error fault →
    fault.isReported = true ∨ ∃ n w, v.Holds n w ∧ Excessive w fault

namespace Grounded

variable {α β : Type} {v w : Value} {t : Table} {key : String} {default : Value}

theorem ok (a : α) : Grounded v (.ok a) := nofun

theorem told {fault : Fault} (reported : fault.isReported = true) :
    Grounded v (.error fault : Reading α) := by
  rintro _ ⟨⟩
  exact .inl reported

theorem excess {fault : Fault} (much : Excessive v fault) :
    Grounded v (.error fault : Reading α) := by
  rintro _ ⟨⟩
  exact .inr ⟨0, v, .self v, much⟩

theorem within {x : Reading α} {n : Nat} (held : v.Holds n w)
    (inner : Grounded w x) : Grounded v x := by
  intro fault failed
  rcases inner failed with reported | ⟨m, u, deeper, much⟩
  · exact .inl reported
  · exact .inr ⟨m + n, u, held.trans deeper, much⟩

theorem bind {x : Reading α} {next : α → Reading β} (first : Grounded v x)
    (later : ∀ a, x = .ok a → Grounded v (next a)) :
    Grounded v (x >>= next) := by
  intro fault failed
  rcases bind_eq_error failed with wrong | ⟨a, read, wrong⟩
  · exact first wrong
  · exact later a read wrong

theorem mapM {read : α → Reading β} {items : List α}
    (each : ∀ a ∈ items, Grounded v (read a)) : Grounded v (items.mapM read) := by
  intro fault failed
  obtain ⟨a, member, wrong⟩ := exists_of_mapM_error failed
  exact each a member wrong

theorem foldlM {step : β → α → Reading β} {items : List α} {start : β}
    (each : ∀ a ∈ items, ∀ b, Grounded v (step b a)) :
    Grounded v (items.foldlM step start) := by
  intro fault failed
  obtain ⟨a, member, b, wrong⟩ := exists_of_foldlM_error failed
  exact each a member b wrong

end Grounded

/-! Single values. -/

variable {α : Type} {v : Value} {t : Table}

theorem isReported_about {fault : Fault} (reported : fault.isReported = true) :
    (fault.about v).isReported = true := by
  rw [Fault.about]
  split
  · exact reported
  · rfl

theorem grounded_textOf (w : Value) : Grounded v (textOf w) := by
  rw [textOf]
  split
  · exact .ok _
  · exact .told rfl

theorem grounded_asciiOf (data : Bytes) : Grounded v (asciiOf data) := by
  rw [asciiOf]
  split
  · exact .ok _
  · exact .told rfl

theorem grounded_tableOf (w : Value) : Grounded v (tableOf w) := by
  cases w with
  | table t => exact .ok t
  | _ => exact .told rfl

theorem grounded_section (t : Table) (key : String) :
    Grounded v (section? t key) := by
  rw [section?]
  split
  · exact .ok _
  · exact .told rfl

theorem grounded_members (w : Value) : Grounded v (members w) := by
  rw [members.eq_def]
  split
  · exact .ok _
  · split
    · exact .ok _
    · exact .ok _
    · exact .ok _
    · exact .ok _
    · exact .ok _
    · exact .told rfl

theorem grounded_integerOf (s : Text) : Grounded v (integerOf s) := by
  rw [integerOf]
  split
  · exact .ok _
  · exact .told rfl

theorem grounded_integer (v : Value) : Grounded v (integer v) := by
  cases v with
  | bool b => exact .ok _
  | int i => exact .ok i
  | float x =>
      rw [integer]
      split
      · exact .told rfl
      · next endless => exact .excess (.infinite endless)
      · exact .ok _
  | text s => exact grounded_integerOf s
  | bytes data =>
      exact (grounded_asciiOf data).bind fun s _ => grounded_integerOf s
  | _ => exact .told rfl

theorem grounded_numberOf (s : Text) : Grounded v (numberOf s) := by
  rw [numberOf]
  split
  · exact .ok _
  · exact .told rfl

theorem grounded_number (v : Value) : Grounded v (number v) := by
  cases v with
  | bool b => exact .ok _
  | int i =>
      rw [number]
      split
      · exact .ok _
      · next large => exact .excess (.integer large)
  | float x => exact .ok x
  | text s => exact grounded_numberOf s
  | bytes data =>
      exact (grounded_asciiOf data).bind fun s _ => grounded_numberOf s
  | _ => exact .told rfl

theorem excessive_of_read (failed : Duration.read v = .error .tooLarge) :
    Excessive v .tooLarge := by
  rw [Duration.read.eq_def] at failed
  split at failed
  · cases failed
  · cases failed
  · split at failed
    · cases failed
    · next large => exact .integer large
  · cases failed
  · split at failed <;> cases failed

theorem grounded_duration (v : Value) : Grounded v (duration v) := by
  rw [duration]
  split
  · exact .ok _
  · exact .told (isReported_about rfl)
  · next failed => exact .excess (excessive_of_read failed)

/-! Parts of a table. -/

theorem holds_of_get? {key : Text} (found : Dict.get? t key = some v) :
    (Value.table t).Holds 1 v :=
  .entry (Dict.mem_of_get? found) (.self v)

theorem holds_field {key : String} (there : field t key ≠ .null) :
    (Value.table t).Holds 1 (field t key) := by
  rw [field] at there ⊢
  cases found : Dict.get? t (text key) with
  | none =>
      rw [found] at there
      exact absurd rfl there
  | some v => exact holds_of_get? found

theorem holds_given {key : String} (given : (field t key).isGiven = true) :
    (Value.table t).Holds 1 (field t key) := by
  refine holds_field fun missing => ?_
  rw [missing] at given
  cases given

theorem holds_section {key : String} {inner : Table}
    (read : section? t key = .ok inner) :
    inner = [] ∨ (Value.table t).Holds 1 (.table inner) := by
  rw [section?, Config.given] at read
  split at read
  · next found =>
      cases read
      split at found
      · next given => exact .inr (found ▸ holds_given given)
      · cases found
        exact .inl rfl
  · cases read

theorem eq_of_tableOf (read : tableOf v = .ok t) : v = .table t := by
  cases v with
  | table entries =>
      cases read
      rfl
  | _ => cases read

theorem mem_of_members {vs : List Value} (read : members v = .ok vs)
    {w : Value} (member : w ∈ vs) :
    v.isGiven = true ∧
      ((∃ n, v.Holds n w) ∨ (∃ s, w = .text s) ∨ ∃ i, w = .int i) := by
  rw [members.eq_def] at read
  split at read
  · cases read
    cases member
  · next given =>
      refine ⟨by simpa using given, ?_⟩
      split at read
      · cases read
        exact .inl ⟨_, .item member (.self w)⟩
      · cases read
        obtain ⟨c, _, rfl⟩ := List.mem_map.1 member
        exact .inr (.inl ⟨_, rfl⟩)
      · cases read
        obtain ⟨entry, _, rfl⟩ := List.mem_map.1 member
        exact .inr (.inl ⟨_, rfl⟩)
      · cases read
        exact .inl ⟨_, .member member (.self w)⟩
      · cases read
        obtain ⟨b, _, rfl⟩ := List.mem_map.1 member
        exact .inr (.inr ⟨_, rfl⟩)
      · cases read

namespace Grounded

variable {read : Value → Reading α} {key : String} {default : Value}

theorem fieldOr (each : ∀ w, Grounded w (read w))
    (usual : Grounded (.table t) (read default)) :
    Grounded (.table t) (read (fieldOr t key default)) := by
  rw [Config.fieldOr]
  cases found : Dict.get? t (text key) with
  | none => exact usual
  | some w => exact (each w).within (holds_of_get? found)

theorem field (each : ∀ w, Grounded w (read w))
    (usual : Grounded (.table t) (read .null)) :
    Grounded (.table t) (read (field t key)) :=
  fieldOr each usual

theorem given {n : Nat} (outer : v.Holds n (.table t))
    (each : ∀ w, Grounded w (read w)) (usual : Grounded v (read default)) :
    Grounded v (read (Config.given (Config.field t key) default)) := by
  rw [Config.given]
  split
  · next given => exact (each _).within (outer.trans (holds_given given))
  · exact usual

theorem inSection {inner : Table} {x : Reading α}
    (found : section? t key = .ok inner) (read : Grounded (.table inner) x) :
    Grounded (.table t) x := by
  rcases holds_section found with rfl | held
  · intro fault failed
    rcases read failed with reported | ⟨n, u, inner, much⟩
    · exact .inl reported
    · cases inner with
      | self => cases much <;> contradiction
      | entry member => cases member
  · exact read.within held

theorem bindSection {β : Type} {x : Table → Reading α} {next : α → Reading β}
    (each : ∀ inner, Grounded (.table inner) (x inner))
    (later : ∀ a, Grounded (.table t) (next a)) :
    Grounded (.table t) (section? t key >>= fun inner => x inner >>= next) :=
  (grounded_section t key).bind fun inner found =>
    ((each inner).inSection found).bind fun a _ => later a

/-- What is read from a member of a value has its ground there, since a text has
nothing in it that is too much. -/
theorem ofMember {w u : Value} {us : List Value} {x : Reading α}
    (outer : w.isGiven = true → ∃ n, v.Holds n w) (found : members w = .ok us)
    (member : u ∈ us) (read : Grounded u x)
    (number : ∀ i, u = .int i → Grounded v x) : Grounded v x := by
  obtain ⟨given, ⟨n, inner⟩ | ⟨s, rfl⟩ | ⟨i, same⟩⟩ := mem_of_members found member
  · obtain ⟨m, held⟩ := outer given
    exact read.within (held.trans inner)
  · intro fault failed
    rcases read failed with reported | ⟨_, _, held, much⟩
    · exact .inl reported
    · cases held
      cases much
  · exact number i same

end Grounded

namespace Reading

/-! The board. -/

theorem grounded_identity (t : Table) (old : Identity) :
    Grounded (.table t) (identity t old) := by
  rw [identity]
  split
  · exact .ok _
  · exact (Grounded.fieldOr grounded_integer (.ok _)).bind fun _ _ =>
      (Grounded.fieldOr grounded_integer (.ok _)).bind fun _ _ =>
      (Grounded.fieldOr grounded_integer (.ok _)).bind fun _ _ => .ok _

theorem grounded_putAll {read : Text → Table → Reading α}
    (each : ∀ key inner, Grounded (.table inner) (read key inner)) (t : Table)
    (d : Dict α) : Grounded (.table t) (putAll read t d) := by
  refine Grounded.foldlM fun entry member d => ?_
  refine (grounded_tableOf entry.2).bind fun inner found => ?_
  have known : (Value.table t).Holds 1 (.table inner) :=
    .entry member (eq_of_tableOf found ▸ .self _)
  exact ((each _ inner).within known).bind fun _ _ => .ok _

theorem grounded_volts (t : Table) : Grounded (.table t) (volts t) :=
  .fieldOr grounded_number (.ok _)

theorem grounded_adc (t : Table) : Grounded (.table t) (adc t) :=
  (grounded_volts t).bind fun _ _ =>
    (Grounded.fieldOr grounded_number (.ok _)).bind fun _ _ => .ok _

theorem grounded_sensor (t : Table) : Grounded (.table t) (sensor t) := by
  have part : ∀ key, Grounded (.table t)
      (number (fieldOr t key (.float 0.0))) :=
    fun _ => .fieldOr grounded_number (.ok _)
  exact (part _).bind fun _ _ => (part _).bind fun _ _ =>
    (part _).bind fun _ _ => (part _).bind fun _ _ => .ok _

theorem grounded_pin (t : Table) : Grounded (.table t) (pin t) :=
  (Grounded.fieldOr grounded_integer (.ok _)).bind fun _ _ =>
    (grounded_textOf _).bind fun _ _ => (grounded_textOf _).bind fun _ _ => .ok _

theorem grounded_node (name : Text) (t : Table) :
    Grounded (.table t) (node name t) :=
  (Grounded.fieldOr grounded_integer (.ok _)).bind fun _ _ =>
    (grounded_textOf _).bind fun _ _ => (grounded_members _).bind fun _ _ =>
    (grounded_textOf _).bind fun _ _ => .ok _

theorem grounded_connection (v : Value) : Grounded v (connection v) := by
  refine (grounded_tableOf v).bind fun t _ => ?_
  split
  · exact (grounded_textOf _).bind fun _ _ =>
      (grounded_textOf _).bind fun _ _ => .ok _
  · exact .told rfl

theorem grounded_board (t : Table) (b : Board) :
    Grounded (.table t) (boardOver t b) := by
  refine (grounded_textOf _).bind fun _ _ => ?_
  refine .bindSection (fun inner => grounded_identity inner b.identity) fun _ => ?_
  refine .bindSection (grounded_putAll (fun _ => grounded_volts) · b.dac) fun _ => ?_
  refine .bindSection (grounded_putAll (fun _ => grounded_adc) · b.adc) fun _ => ?_
  refine .bindSection (grounded_putAll (fun _ => grounded_sensor) · b.sensors)
    fun _ => ?_
  refine .bindSection (grounded_putAll (fun _ => grounded_pin) · b.pins) fun _ => ?_
  refine .bindSection (grounded_putAll grounded_node · b.nodes) fun _ => ?_
  refine (grounded_members _).bind fun _ found => ?_
  refine Grounded.bind (.mapM fun v member => ?_) fun _ _ => .ok _
  exact .ofMember (fun given => ⟨1, holds_given given⟩) found member
    (grounded_connection v) fun _ same => same ▸ .told rfl

/-! Mappings. -/

theorem grounded_chunk (v : Value) : Grounded v (chunk v) := by
  have ofTable : Grounded v (do
      let t ← tableOf v
      return ({
        data := ← textOf (fieldOr t "data" (.text []))
        delay := ← duration (field t "delay")
        jitter := ← duration (field t "jitter_max") } : Chunk)) := by
    refine (grounded_tableOf v).bind fun t found => ?_
    cases eq_of_tableOf found
    exact (grounded_textOf _).bind fun _ _ =>
      (Grounded.field grounded_duration (.ok _)).bind fun _ _ =>
      (Grounded.field grounded_duration (.ok _)).bind fun _ _ => .ok _
  cases v with
  | text data => exact .ok _
  | _ => exact ofTable

theorem grounded_response (v : Value) : Grounded v (response v) := by
  cases v with
  | text data => exact .ok _
  | table t =>
      rw [response]
      refine (Grounded.given (.self _) grounded_integer (.ok _)).bind
        fun weight _ => ?_
      split
      · refine (grounded_members _).bind fun _ found => ?_
        refine Grounded.bind (.mapM fun v member => ?_) fun _ _ => .ok _
        exact .ofMember (fun given => ⟨1, holds_given given⟩) found member
          (grounded_chunk v) fun _ same => same ▸ .told rfl
      · exact (grounded_textOf _).bind fun _ _ => .ok _
  | _ => exact .told (isReported_about rfl)

theorem grounded_selection (w : Value) : Grounded v (selection w) := by
  rw [selection]
  split
  · split
    · exact .ok _
    · exact .told rfl
  · exact .told (isReported_about rfl)

theorem grounded_manner (t : Table) : Grounded (.table t) (manner t) :=
  (grounded_selection _).bind fun _ _ =>
    (Grounded.field grounded_duration (.ok _)).bind fun _ _ =>
    (Grounded.field grounded_duration (.ok _)).bind fun _ _ =>
    (Grounded.given (.self _) grounded_integer (.ok _)).bind fun _ _ =>
    (Grounded.field grounded_duration (.ok _)).bind fun _ _ => .ok _

theorem grounded_responses (t : Table) : Grounded (.table t) (responses t) := by
  rw [responses]
  split
  · exact (grounded_textOf _).bind fun _ _ => .ok _
  · refine (grounded_members _).bind fun _ found => .mapM fun v member => ?_
    exact .ofMember (fun given => ⟨1, holds_given given⟩) found member
      (grounded_response v) fun _ same => same ▸ .told (isReported_about rfl)

theorem grounded_checkPattern {index : Nat} {m : Mapping} {request : Value}
    (asked : Dict.get? t (text "request") = some request)
    (spelled : m.request = request.toText)
    (pattern : m.isPattern = (field t "is_regex").isGiven) :
    Grounded (.table t) (checkPattern index m) := by
  rw [checkPattern]
  split
  · next given =>
      rw [pattern] at given
      rw [spelled]
      split
      · exact .ok _
      · exact .told rfl
      · next read => exact .excess (.count asked given read)
      · next read => exact .excess (.groups asked given read)
      · exact .told rfl
  · exact .ok _

/-- A mapping that is no table has no request, whether or not it has the word. -/
theorem grounded_unnamed {named : Bool} {index : Nat} : Grounded v
    (.error (if named then .wrongKind else .noRequest index) : Reading α) := by
  cases named <;> exact .told rfl

theorem grounded_mapping (index : Nat) (v : Value) :
    Grounded v (mapping index v) := by
  cases v with
  | table t =>
      rw [mapping]
      split
      · exact .told rfl
      · next request asked =>
          refine (grounded_responses t).bind fun _ _ => ?_
          split
          · exact .told (isReported_about rfl)
          · refine (grounded_textOf _).bind fun s shown => ?_
            refine (grounded_section t _).bind fun _ found => ?_
            refine ((grounded_manner _).inSection found).bind fun _ _ => ?_
            refine grounded_checkPattern asked ?_ rfl
            rw [textOf] at shown
            split at shown
            · cases shown
              rfl
            · cases shown
  | list items => exact grounded_unnamed
  | set members => exact grounded_unnamed
  | pair v w => exact grounded_unnamed
  | text s =>
      rw [mapping]
      split <;> exact .told rfl
  | _ => exact .told rfl

theorem grounded_mappingsFrom (index : Nat) {vs : List Value}
    (each : ∀ w ∈ vs, ∀ index, Grounded v (mapping index w)) :
    Grounded v (mappingsFrom index vs) := by
  induction vs generalizing index with
  | nil => exact .ok _
  | cons w rest ih =>
      have others := ih (index + 1) fun w member =>
        each w (List.mem_cons_of_mem _ member)
      exact (each w (List.mem_cons_self ..) index).bind fun _ _ =>
        others.bind fun _ _ => .ok _

theorem grounded_mappings (v : Value) : Grounded v (mappings v) := by
  refine (grounded_members v).bind fun _ found =>
    grounded_mappingsFrom 0 fun w member index => ?_
  exact .ofMember (fun _ => ⟨0, .self v⟩) found member
    (grounded_mapping index w) fun _ same => same ▸ .told rfl

end Reading

/-! The whole configuration. -/

theorem grounded_serialSetting {serial : Table} {key serialKey : String} {i : Int}
    (found : section? t "serial" = .ok serial) : Grounded (.table t)
      (integer (serialSetting t serial key serialKey (.int i))) := by
  refine .given (.self _) grounded_integer ?_
  rcases holds_section found with rfl | held
  · exact .ok i
  · exact .given held grounded_integer (.ok i)

theorem grounded_drainTimeoutOf (t : Table) :
    Grounded (.table t) (drainTimeoutOf t) := by
  rw [drainTimeoutOf]
  split
  · next v found => exact (grounded_duration v).within (holds_of_get? found)
  · exact .ok _

theorem grounded_mappingsOf (t : Table) : Grounded (.table t) (mappingsOf t) := by
  rw [mappingsOf]
  split
  · next v found =>
      exact (Reading.grounded_mappings v).within (holds_of_get? found)
  · exact .ok _

theorem grounded_boardTable (t : Table) : Grounded (.table t) (boardTable t) := by
  refine (grounded_section t _).bind fun first _ => ?_
  split
  · exact grounded_section t _
  · exact .ok first

theorem section_of_boardTable {inner : Table} (found : boardTable t = .ok inner) :
    ∃ key, section? t key = .ok inner := by
  obtain ⟨first, read, found⟩ := bind_eq_ok found
  split at found
  · exact ⟨_, found⟩
  · cases found
    exact ⟨_, read⟩

theorem grounded_ofTable (t : Table) : Grounded (.table t) (ofTable t) := by
  rw [ofTable_eq]
  refine (grounded_section t _).bind fun serial found => ?_
  refine (grounded_serialSetting found).bind fun _ _ => ?_
  refine (grounded_serialSetting found).bind fun _ _ => ?_
  refine (grounded_drainTimeoutOf t).bind fun _ _ => ?_
  refine (grounded_boardTable t).bind fun inner found => ?_
  obtain ⟨key, found⟩ := section_of_boardTable found
  refine ((Reading.grounded_board _ _).inSection found).bind fun _ _ => ?_
  exact (grounded_mappingsOf t).bind fun _ _ => .ok _

theorem grounded_ofNormal (v : Value) : Grounded v (ofNormal v) := by
  cases v with
  | table t =>
      rw [ofNormal, unwrap]
      split
      · next inner wrapped =>
          have held : (Value.table t).Holds 1 (field t "emulator") :=
            holds_field (by rw [wrapped]; nofun)
          rw [wrapped] at held
          exact (grounded_ofTable inner).within held
      · exact grounded_ofTable t
  | _ => exact .told rfl

/-- What in data leads to a fault that is not told: something in it that is too
much, as it is or in its common spelling, or what bars the data from that
spelling. -/
inductive Excess (data : Value) : Fault → Prop
  | part {v w : Value} {n : Nat} {fault : Fault} (held : data.Holds n v)
      (becomes : Key.Becomes v w) (much : Excessive w fault) : Excess data fault
  | nesting (bars : Key.Bars data Key.mostSteps .tooDeep) : Excess data .tooDeep
  | key (bars : Key.Bars data Key.mostSteps .unshown) : Excess data .longKey

theorem excess_of_ofTableData {data : Value} {fault : Fault}
    (failed : ofTableData data = .error fault) :
    fault.isReported = true ∨ Excess data fault := by
  rw [ofTableData] at failed
  split at failed
  · next v spelled =>
      rcases grounded_ofNormal v failed with reported | ⟨n, w, held, much⟩
      · exact .inl reported
      · obtain ⟨x, held, becomes⟩ := Key.exists_of_normal_holds spelled held
        exact .inr (.part held becomes much)
  · next unshown =>
      cases failed
      exact .inr (.key (Key.bars_of_normal unshown))
  · next deep =>
      cases failed
      exact .inr (.nesting (Key.bars_of_normal deep))

theorem excess_of_ofValue {data : Value} {fault : Fault}
    (failed : ofValue data = .error fault) :
    fault.isReported = true ∨ Excess data fault := by
  cases data with
  | null => cases failed
  | table entries => exact excess_of_ofTableData failed
  | map entries => exact excess_of_ofTableData failed
  | _ =>
      cases failed
      exact .inl rfl

/-! Files. -/

/-- What in a file leads to a fault that is not told: bytes that are no text,
scalars and nestings that the format cannot deal with, and data that is too
much. -/
inductive Spoiled (place : Text) (content : Bytes) : FileFault → Prop
  | undecoded (json : isYaml place = false)
      (bytes : Utf8.decode? content = none) : Spoiled place content .notText
  | digits {s : Text} (json : isYaml place = false)
      (decoded : Utf8.decode? content = some s)
      (read : Json.read s = .error .longInteger) :
      Spoiled place content (.scalar .badNumber)
  | levels {s : Text} (json : isYaml place = false)
      (decoded : Utf8.decode? content = some s)
      (read : Json.read s = .error .tooDeep) :
      Spoiled place content (.scalar .tooDeep)
  | bytes (yaml : isYaml place = true)
      (read : Yaml.read content = .error .notText) :
      Spoiled place content .notText
  | scalar {cause : Yaml.Fault} (yaml : isYaml place = true)
      (read : Yaml.read content = .error cause) (formed : cause ≠ .malformed) :
      Spoiled place content (.scalar cause)
  | data {data : Value} {fault : Fault} (read : dataOf place content = .ok data)
      (excess : Excess data fault) : Spoiled place content (.config fault)

theorem spoiled_of_dataOf {place : Text} {content : Bytes} {fault : FileFault}
    (failed : dataOf place content = .error fault) :
    fault.isReported = true ∨ Spoiled place content fault := by
  rw [dataOf] at failed
  split at failed
  · next yaml =>
      split at failed
      · cases failed
      · cases failed
        exact .inl rfl
      · next read =>
          cases failed
          exact .inr (.bytes yaml read)
      · next cause formed _ read =>
          cases failed
          exact .inr (.scalar yaml read formed)
  · next other =>
      have json : isYaml place = false := Bool.eq_false_iff.2 other
      split at failed
      · next bytes =>
          cases failed
          exact .inr (.undecoded json bytes)
      · next s decoded =>
          split at failed
          · cases failed
          · cases failed
            exact .inl rfl
          · next read =>
              cases failed
              exact .inr (.digits json decoded read)
          · next read =>
              cases failed
              exact .inr (.levels json decoded read)

theorem spoiled_of_load {f : Folder} {path : Option Text} {fault : FileFault}
    (failed : load f path = .error fault) :
    fault.isReported = true ∨ ∃ place content, path = some place ∧
      f.entry? place = some (.file content) ∧ Spoiled place content fault := by
  rw [load.eq_def] at failed
  split at failed
  · cases failed
  · next place =>
      split at failed
      · cases failed
      · cases failed
        exact .inl rfl
      · next content there =>
          split at failed
          · next wrong =>
              cases failed
              exact (spoiled_of_dataOf wrong).imp_right fun spoiled =>
                ⟨place, content, rfl, there, spoiled⟩
          · next data read =>
              split at failed
              · cases failed
              · next wrong =>
                  cases failed
                  exact (excess_of_ofValue wrong).imp_right fun excess =>
                    ⟨place, content, rfl, there, .data read excess⟩

/-- Data and files give a configuration or a fault that is told as one of the
configuration, unless there is something in them that is too much. -/
theorem reported_or_excess (data : Value) (f : Folder) (path : Option Text) :
    ((∃ c, ofValue data = .ok c) ∨ ∃ fault, ofValue data = .error fault ∧
      (fault.isReported = true ∨ Excess data fault)) ∧
    ((∃ c, load f path = .ok c) ∨ ∃ fault, load f path = .error fault ∧
      (fault.isReported = true ∨ ∃ place content, path = some place ∧
        f.entry? place = some (.file content) ∧ Spoiled place content fault)) := by
  constructor
  · cases read : ofValue data with
    | ok c => exact .inl ⟨c, rfl⟩
    | error fault => exact .inr ⟨fault, rfl, excess_of_ofValue read⟩
  · cases read : load f path with
    | ok c => exact .inl ⟨c, rfl⟩
    | error fault => exact .inr ⟨fault, rfl, spoiled_of_load read⟩

def beyond : Int := (Nat.pow 10 200 * Nat.pow 10 200 : Nat)

def endless (key : String) : Table := [(text key, .int beyond)]

def unreadable : Folder := [(text "a.json", .file [0xFF])]

theorem floatOfInt?_beyond : floatOfInt? beyond = none := by
  rw [floatOfInt?, if_neg]
  decide +kernel

theorem excess_unreported :
    (∃ fault, ofValue (.table (endless "drainTimeout")) = .error fault ∧
      fault.isReported = false) ∧
    ∃ fault, load unreadable (some (text "a.json")) = .error fault ∧
      fault.isReported = false := by
  refine ⟨⟨.tooLarge, ?_, rfl⟩, .notText, rfl, rfl⟩
  have spelled : ofValue (.table (endless "drainTimeout")) =
    ofTable (endless "drain_timeout") := rfl
  have serial : section? (endless "drain_timeout") "serial" = .ok [] := rfl
  have buffer : integer (serialSetting (endless "drain_timeout") []
    "buffer_size" "buffer_size" (.int 1024)) = .ok 1024 := rfl
  have baud : integer (serialSetting (endless "drain_timeout") []
    "baud_rate" "baud_rate" (.int 115200)) = .ok 115200 := rfl
  have drain : drainTimeoutOf (endless "drain_timeout") = .error .tooLarge := by
    change duration (.int beyond) = _
    rw [duration, Duration.read, floatOfInt?_beyond]
  rw [spelled, ofTable_eq, serial]
  simp only [bind, Except.bind, buffer, baud, drain]

end Breadboard.Config
