import Breadboard.Config.File
import Breadboard.Proofs.Data.Folder
import Breadboard.Proofs.Recording.Session
import Mathlib.Data.List.Forall2

/-! A recording that is saved is read again as what was recorded. Its parts are
followed from the inside out: the keys of each are brought to their common
spelling, and what then stands there is read as the part itself. -/

namespace Breadboard

/-- What can be saved and read again. Of the manner nothing is saved, a weight
of zero would be taken for none, and there is no mapping without responses. -/
structure Mapping.Savable (m : Mapping) : Prop where
  answers : m.responses ≠ []
  weighs : ∀ r ∈ m.responses, r.weight ≠ 0
  manner : m.manner = {}
  readable : m.isPattern = true → ∃ r, Regex.read m.request = .ok r

namespace Config

/-! Lists. -/

theorem normalItems_map {data : α → Value} {reads : Value → α → Prop}
    {steps : Nat} {items : List α}
    (each : ∀ a ∈ items,
      ∃ v, Key.normal false steps (data a) = .ok v ∧ reads v a) :
    ∃ vs, Key.normalItems steps (items.map data) = .ok vs ∧
      List.Forall₂ reads vs items := by
  induction items with
  | nil => exact ⟨[], rfl, .nil⟩
  | cons a rest ih =>
      obtain ⟨v, normal, read⟩ := each a (List.mem_cons_self ..)
      obtain ⟨vs, others, reads⟩ :=
        ih fun b member => each b (List.mem_cons_of_mem _ member)
      refine ⟨v :: vs, ?_, .cons read reads⟩
      rw [List.map_cons, Key.normalItems, normal, others]
      rfl

theorem members_list (items : List Value) :
    members (.list items) = .ok items := by
  cases items with
  | nil => rfl
  | cons v rest => rfl

theorem mapM_eq_ok {read : Value → Reading α} {vs : List Value}
    {items : List α}
    (reads : List.Forall₂ (fun v a => read v = .ok a) vs items) :
    vs.mapM read = .ok items := by
  induction reads with
  | nil => rfl
  | cons first _ ih =>
      rw [List.mapM_cons, first, ih]
      rfl

namespace Reading

theorem mappingsFrom_eq_ok {vs : List Value} {ms : Mappings}
    (reads : List.Forall₂ (fun v m => ∀ index, mapping index v = .ok m) vs ms)
    (index : Nat) : mappingsFrom index vs = .ok ms := by
  induction reads generalizing index with
  | nil => rfl
  | cons first _ ih =>
      rw [mappingsFrom, first, ih]
      rfl

/-! Tables, by what stands under their keys. -/

theorem response_eq_ok {t : Table} {vs : List Value} {chunks : List Chunk}
    {weight : Int}
    (weighs : integer (given (field t "weight") (.int 1)) = .ok weight)
    (there : Dict.has t (text "chunks") = true)
    (list : field t "chunks" = .list vs) (read : vs.mapM chunk = .ok chunks) :
    response (.table t) = .ok ⟨chunks, weight⟩ := by
  rw [response, weighs, list, members_list]
  change (if Dict.has t (text "chunks") then _ else _) = _
  rw [if_pos there]
  change (do return Response.mk (← vs.mapM chunk) weight) = _
  rw [read]
  rfl

theorem responses_eq_ok {t : Table} {vs : List Value} {rs : List Response}
    (single : field t "response" = .null)
    (list : field t "responses" = .list vs)
    (read : vs.mapM response = .ok rs) : responses t = .ok rs := by
  rw [responses, single, list, members_list]
  exact read

theorem mapping_eq_ok {t : Table} {request : Text} {rs : List Response}
    {m : Mapping} {index : Nat}
    (asked : Dict.get? t (text "request") = some (.text request))
    (answered : responses t = .ok rs) (answers : rs ≠ [])
    (plain : field t "response_config" = .null)
    (checked : checkPattern index
      ⟨request, (field t "is_regex").isGiven, rs, {}⟩ = .ok m) :
    mapping index (.table t) = .ok m := by
  have nonempty : ¬ rs.isEmpty = true := by
    rwa [List.isEmpty_iff]
  rw [mapping, asked, answered, section?, plain]
  change (if rs.isEmpty then _ else _) = _
  rw [if_neg nonempty]
  exact checked

end Reading

/-! The parts of a recording. -/

theorem chunk_again (c : Chunk) (steps : Nat) :
    ∃ v, Key.normal false (steps + 2) (chunkData c) = .ok v ∧
      Reading.chunk v = .ok c :=
  ⟨.table [(text "data", .text c.data), (text "delay", .float c.delay),
    (text "jitter_max", .float c.jitter)], rfl, rfl⟩

theorem response_again {r : Response} (weighs : r.weight ≠ 0) (steps : Nat) :
    ∃ v, Key.normal false (steps + 5) (responseData r) = .ok v ∧
      Reading.response v = .ok r := by
  obtain ⟨vs, normal, reads⟩ :=
    normalItems_map fun c (_ : c ∈ r.chunks) => chunk_again c steps
  have chunks := mapM_eq_ok reads
  by_cases one : r.weight = 1
  · refine ⟨.table [(text "chunks", .list vs)], ?_, ?_⟩
    · rw [responseData, if_pos one]
      simp only [Key.normal, Key.normalEntries, Nat.add_one_sub_one, normal]
      rfl
    · rw [Reading.response_eq_ok rfl rfl rfl chunks, ← one]
  · have weight : given (.int r.weight) (.int 1) = .int r.weight := by
      rw [given, Value.isGiven, bne_iff_ne.2 weighs, if_pos rfl]
    refine ⟨.table [(text "chunks", .list vs), (text "weight", .int r.weight)],
      ?_, ?_⟩
    · rw [responseData, if_neg one]
      simp only [Key.normal, Key.normalEntries, Nat.add_one_sub_one, normal]
      rfl
    · exact Reading.response_eq_ok (congrArg integer weight) rfl rfl chunks

theorem checkPattern_eq_ok {m : Mapping}
    (readable : m.isPattern = true → ∃ r, Regex.read m.request = .ok r)
    (index : Nat) : Reading.checkPattern index m = .ok m := by
  rw [Reading.checkPattern]
  split
  · next pattern =>
      obtain ⟨r, read⟩ := readable pattern
      rw [read]
  · rfl

theorem mapping_again {m : Mapping} (savable : m.Savable) (steps : Nat) :
    ∃ v, Key.normal false (steps + 8) (mappingData m) = .ok v ∧
      ∀ index, Reading.mapping index v = .ok m := by
  obtain ⟨request, isPattern, rs, manner⟩ := m
  obtain rfl : manner = {} := savable.manner
  obtain ⟨vs, normal, reads⟩ := normalItems_map fun r member =>
    response_again (savable.weighs r member) steps
  have responses := mapM_eq_ok reads
  have checked := checkPattern_eq_ok savable.readable
  cases isPattern with
  | true =>
      refine ⟨.table [(text "request", .text request),
        (text "is_regex", .bool true), (text "responses", .list vs)], ?_, ?_⟩
      · simp only [mappingData, if_true, List.cons_append, List.nil_append,
          Key.normal, Key.normalEntries, Nat.add_one_sub_one, normal]
        rfl
      · intro index
        exact Reading.mapping_eq_ok rfl
          (Reading.responses_eq_ok rfl rfl responses) savable.answers rfl
          (checked index)
  | false =>
      refine ⟨.table [(text "request", .text request),
        (text "responses", .list vs)], ?_, ?_⟩
      · simp only [mappingData, Bool.false_eq_true, if_false, List.cons_append,
          List.nil_append, Key.normal, Key.normalEntries, Nat.add_one_sub_one,
          normal]
        rfl
      · intro index
        exact Reading.mapping_eq_ok rfl
          (Reading.responses_eq_ok rfl rfl responses) savable.answers rfl
          (checked index)

/-! The whole of it. -/

/-- The settings that a recording says nothing of. -/
def unsaid : List String :=
  ["serial", "buffer_size", "baud_rate", "jumperless", "hardware_state"]

theorem ofTable_eq_ok {t : Table} {port v : Value} {ms : Mappings}
    (named : serialSetting t [] "virtual_port" "port" .null = port)
    (missing : unsaid.map (field t) = unsaid.map fun _ => .null)
    (untimed : t.get? (text "drain_timeout") = none)
    (there : t.get? (text "mappings") = some v)
    (read : Reading.mappings v = .ok ms) :
    ofTable t = .ok { stock with
      port := if port.isGiven then some port else none, mappings := ms } := by
  have nulls : ∀ key ∈ unsaid, field t key = .null :=
    List.map_inj_left.1 missing
  have empty : ∀ key ∈ unsaid, section? t key = .ok [] := by
    intro key member
    rw [section?, nulls key member]
    rfl
  have board : boardTable t = .ok [] := by
    rw [boardTable, empty "jumperless" (by decide)]
    exact empty "hardware_state" (by decide)
  rw [ofTable, empty "serial" (by decide), board, untimed, there]
  change (do
    let bufferSize ← integer (given (field t "buffer_size") (.int 1024))
    let baudRate ← integer (given (field t "baud_rate") (.int 115200))
    let board ← Reading.board []
    let mappings ← Reading.mappings v
    let port := serialSetting t [] "virtual_port" "port" .null
    return Config.mk (if port.isGiven then some port else none) bufferSize
      baudRate stock.drainTimeout board mappings) = _
  rw [nulls "buffer_size" (by decide), nulls "baud_rate" (by decide), read,
    named]
  rfl

theorem ofValue_recordingData (port : Option Text) {ms : Mappings}
    (savable : ∀ m ∈ ms, m.Savable) :
    ofValue (recordingData port ms) = .ok { stock with
      port := (port.filter (!·.isEmpty)).map .text, mappings := ms } := by
  obtain ⟨vs, normal, reads⟩ :=
    normalItems_map fun m member => mapping_again (savable m member) 982
  have mappings : Reading.mappings (.list vs) = .ok ms := by
    rw [Reading.mappings, members_list]
    exact Reading.mappingsFrom_eq_ok reads 0
  have unnamed : ofTableData (recordingData none ms) =
      .ok { stock with mappings := ms } := by
    have spelled : Key.normal false Key.mostSteps (recordingData none ms) =
        .ok (.table [(text "emulator",
          .table [(text "mappings", .list vs)])]) := by
      simp only [recordingData, mappingsData, List.nil_append, Key.mostSteps,
        Key.normal, Key.normalEntries, Nat.add_one_sub_one, normal]
      rfl
    rw [ofTableData, spelled]
    exact ofTable_eq_ok rfl rfl rfl rfl mappings
  -- An empty name is not saved, and so there are three cases.
  match port with
  | none => exact unnamed
  | some [] => exact unnamed
  | some (c :: name) =>
      have spelled : Key.normal false Key.mostSteps
            (recordingData (some (c :: name)) ms) =
          .ok (.table [(text "emulator",
            .table [(text "virtual_port", .text (c :: name)),
              (text "mappings", .list vs)])]) := by
        simp only [recordingData, mappingsData, List.cons_append,
          List.nil_append, Key.mostSteps, Key.normal, Key.normalEntries,
          Nat.add_one_sub_one, normal]
        rfl
      change ofTableData (recordingData (some (c :: name)) ms) = _
      rw [ofTableData, spelled]
      exact ofTable_eq_ok rfl rfl rfl rfl mappings

/-! Files. -/

theorem exists_of_save {f f' : Folder} {path : Text} {overwrite : Bool}
    {port : Option Text} {ms : Mappings}
    (saved : save f path overwrite port ms = .ok f') :
    ∃ content, textOf? path (recordingData port ms) = some content ∧
      Folder.entry? f' path =
        some (.file ((Utf8.encode? content).getD [])) := by
  rw [save] at saved
  split at saved
  · cases saved
  · split at saved
    · cases saved
    · next content told =>
        split at saved
        · cases saved
        · next written =>
            split at saved
            · cases saved
            · cases saved
              exact ⟨content, told, Folder.entry?_of_write written⟩

theorem load_of_file {f : Folder} {path : Text} {content : Bytes}
    {data : Value} {c : Config}
    (there : Folder.entry? f path = some (.file content))
    (read : dataOf path content = .ok data) (stands : ofValue data = .ok c) :
    load f (some path) = .ok c := by
  simp only [load, there, read, stands]

end Config

namespace Recorder

/-! What a recorder keeps can be saved, whatever happens to it. -/

theorem savable_addResponses {ms : Mappings} {request : Text}
    {responses : List Response} (savable : ∀ m ∈ ms, m.Savable)
    (answers : responses ≠ []) (weighs : ∀ r ∈ responses, r.weight ≠ 0) :
    ∀ m ∈ ms.addResponses request responses, m.Savable := by
  induction ms with
  | nil =>
      intro m member
      obtain rfl := List.mem_singleton.1 member
      exact { answers, weighs, manner := rfl, readable := nofun }
  | cons first rest ih =>
      obtain ⟨savableFirst, savableRest⟩ := List.forall_mem_cons.1 savable
      rw [Mappings.addResponses]
      split
      · refine List.forall_mem_cons.2 ⟨?_, savableRest⟩
        exact { savableFirst with
          answers := List.append_ne_nil_of_left_ne_nil savableFirst.answers _
          weighs := List.forall_mem_append.2 ⟨savableFirst.weighs, weighs⟩ }
      · exact List.forall_mem_cons.2 ⟨savableFirst, ih savableRest⟩

theorem savable_finish {r : Recorder} (savable : ∀ m ∈ r.mappings, m.Savable) :
    ∀ m ∈ r.finish.mappings, m.Savable := by
  rw [finish]
  split
  · exact savable
  · refine savable_addResponses savable (List.cons_ne_nil _ _) ?_
    intro response member
    obtain rfl := List.mem_singleton.1 member
    exact Int.one_ne_zero

theorem savable_record {r : Recorder} (savable : ∀ m ∈ r.mappings, m.Savable)
    (event : Event) : ∀ m ∈ (r.record event).mappings, m.Savable := by
  cases event with
  | request now data =>
      by_cases blank : requestOf data = []
      · rw [record, request_blank blank]
        exact savable
      · rw [record, request_of_ne_nil blank]
        exact savable_finish savable
  | response now data => exact savable
  | finish => exact savable_finish savable

theorem savable_after (events : List Event) :
    ∀ m ∈ (after events).mappings, m.Savable := by
  induction events using List.reverseRecOn with
  | nil => exact nofun
  | append_singleton events event ih =>
      rw [after_concat]
      exact savable_record ih event

end Recorder

namespace Config

/-- What a recorder has kept, at any moment of any session, is read from its
data as it was, with the port that was named. So is a file that it was saved
to, if the format of the file gives back the data that was written. -/
theorem recorded_loads (events : List Recorder.Event) {port : Option Text}
    (named : port ≠ some []) :
    let ms := (Recorder.after events).mappings
    let c : Config := { stock with port := port.map .text, mappings := ms }
    ofValue (recordingData port ms) = .ok c ∧
      ∀ f f' path overwrite, save f path overwrite port ms = .ok f' →
        (∀ content, textOf? path (recordingData port ms) = some content →
          dataOf path ((Utf8.encode? content).getD []) =
            .ok (recordingData port ms)) →
        load f' (some path) = .ok c := by
  intro ms c
  have whole : port.filter (!·.isEmpty) = port := by
    cases port with
    | none => rfl
    | some name =>
        have given : name.isEmpty = false := by simpa using named
        rw [Option.filter_some, given]
        rfl
  have stands : ofValue (recordingData port ms) = .ok c := by
    rw [ofValue_recordingData port (Recorder.savable_after events), whole]
  refine ⟨stands, ?_⟩
  intro f f' path overwrite saved faithful
  obtain ⟨content, told, there⟩ := exists_of_save saved
  exact load_of_file there (faithful content told) stands

/-- A request that is answered with a quote and half a character, one that is
not answered at all, and a blank one. -/
def quips : List Recorder.Event := [
  .request 0.0 [0x68, 0x69, 0x0A], .response 0.5 [0x22, 0xC3],
  .request 1.0 [0x3F], .request 2.0 [0x20], .finish]

def emptyFile : Text :=
  text "\x7b\n  \"emulator\": \x7b\n    \"virtualPort\": \"dev\",\n" ++
    text "    \"mappings\": []\n  \x7d\n\x7d\n"

set_option maxRecDepth 2000 in
theorem read_emptyFile :
    Json.read emptyFile = .ok (recordingData (some (text "dev")) []) := by
  cbv

theorem quips_load :
    (Recorder.after quips).mappings.map (·.request) = [text "hi", text "?"] ∧
      ofValue (recordingData (some (text "dev"))
          (Recorder.after quips).mappings) =
        .ok { stock with
          port := some (.text (text "dev"))
          mappings := (Recorder.after quips).mappings } ∧
      ∃ f, save [] (text "a.json") false (some (text "dev")) [] = .ok f ∧
        load f (some (text "a.json")) =
          .ok { stock with
            port := some (.text (text "dev")), mappings := [] } := by
  have named : some (text "dev") ≠ some [] := by decide
  have notYaml : ¬ isYaml (text "a.json") = true := by decide
  have isJson : isJson (text "a.json") = true := by decide
  have isSaved :
      (save [] (text "a.json") false (some (text "dev")) []).isOk = true := by
    decide +kernel
  have written :
      Json.file (recordingData (some (text "dev")) []) = emptyFile := by
    decide +kernel
  have decoded : Utf8.decode? ((Utf8.encode? emptyFile).getD []) =
      some emptyFile := by
    decide +kernel
  refine ⟨by decide +kernel, (recorded_loads quips named).1, ?_⟩
  cases saved : save [] (text "a.json") false (some (text "dev")) [] with
  | error fault =>
      rw [saved] at isSaved
      cases isSaved
  | ok f =>
      refine ⟨f, rfl, (recorded_loads [] named).2 [] f _ false saved ?_⟩
      intro content told
      rw [textOf?, if_neg notYaml, if_pos isJson] at told
      obtain rfl : emptyFile = content :=
        written.symm.trans (Option.some.inj told)
      simp only [dataOf, if_neg notYaml, decoded, read_emptyFile]
      rfl

end Config

end Breadboard
