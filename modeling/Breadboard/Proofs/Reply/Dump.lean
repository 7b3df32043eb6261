import Breadboard.Proofs.Reply.Merge

/-! Dumps that show settings: a line for each entry, with the lines of the sections among
each other and among lines that are none. What a dump shows is what is read from it. -/

namespace Breadboard

/-- An entry, with the section it is for. -/
structure Assignment where
  name : Text
  key : Text
  value : Text
  deriving DecidableEq

namespace Assignment

def entry (a : Assignment) : Text × Text := (a.key, a.value)

def line (a : Assignment) : Text := Settings.entryLine a.name a.key a.value

/-- An entry that stands whole on one line. -/
structure Printable (a : Assignment) : Prop extends Settings.Entry a.name a.key a.value where
  name_unbroken : .char '\n' ∉ a.name
  key_unbroken : .char '\n' ∉ a.key
  value_unbroken : .char '\n' ∉ a.value

instance (a : Assignment) : Decidable a.Printable :=
  decidable_of_iff (Settings.Entry a.name a.key a.value ∧ .char '\n' ∉ a.name ∧
      .char '\n' ∉ a.key ∧ .char '\n' ∉ a.value)
    ⟨fun ⟨entry, name, key, value⟩ => ⟨entry, name, key, value⟩,
      fun ⟨entry, name, key, value⟩ => ⟨entry, name, key, value⟩⟩

theorem Printable.unbroken {a : Assignment} (printable : a.Printable) :
    .char '\n' ∉ a.line := by
  have mark : .char '\n' ∉ text "\x60[" := by decide
  have blank : .char '\n' ∉ text " " := by decide
  have final : .char '\n' ∉ text ";" := by decide
  simp only [line, Settings.entryLine, List.mem_append, List.mem_cons, not_or]
  exact ⟨mark, printable.name_unbroken, by decide,
    ⟨⟨blank, printable.key_unbroken⟩, blank⟩, by decide,
    ⟨blank, printable.value_unbroken⟩, final⟩

end Assignment

def Section.assignments (s : Section) : List Assignment :=
  s.entries.map fun e => ⟨s.name, e.1, e.2⟩

theorem Section.map_assignments (s : Section) :
    s.assignments.map Assignment.entry = s.entries := by
  rw [assignments, List.map_map]
  exact List.map_id s.entries

/-- A line of a dump: an entry with blanks around it, or a line that is none. -/
inductive DumpLine where
  | entry (before : Text) (a : Assignment) (after : Text)
  | other (line : Text)

namespace DumpLine

def line : DumpLine → Text
  | entry before a after => before ++ (a.line ++ after)
  | other line => line

def assignment? : DumpLine → Option Assignment
  | entry _ a _ => some a
  | other _ => none

/-- Only blanks are around an entry, no other line begins like one, and none is broken. -/
def Fit : DumpLine → Prop
  | entry before _ after =>
      (before.Void ∧ .char '\n' ∉ before) ∧ after.Void ∧ .char '\n' ∉ after
  | other line => ¬ text "\x60[" <+: line.trim ∧ .char '\n' ∉ line

instance : (l : DumpLine) → Decidable l.Fit
  | entry before _ after => inferInstanceAs (Decidable
      ((before.Void ∧ .char '\n' ∉ before) ∧ after.Void ∧ .char '\n' ∉ after))
  | other line => inferInstanceAs (Decidable
      (¬ text "\x60[" <+: line.trim ∧ .char '\n' ∉ line))

theorem unbroken {l : DumpLine} (fit : l.Fit) (printable : ∀ a ∈ l.assignment?, a.Printable) :
    .char '\n' ∉ l.line := by
  cases l with
  | entry before a after =>
      obtain ⟨⟨_, front⟩, _, back⟩ := fit
      exact List.not_mem_append front (List.not_mem_append (printable a rfl).unbroken back)
  | other line => exact fit.2

end DumpLine

def assignments (lines : List DumpLine) : List Assignment :=
  lines.filterMap DumpLine.assignment?

theorem assignments_cons (l : DumpLine) (lines : List DumpLine) :
    assignments (l :: lines) = l.assignment?.toList ++ assignments lines := by
  rw [assignments, List.filterMap_cons]
  cases l <;> rfl

namespace Settings

/-- The lines have the entries of each section in their order, and the sections in the
order in which they first appear. -/
structure Shows (lines : List DumpLine) (settings : Settings) : Prop where
  order : ((assignments lines).map Assignment.name).eraseDups = settings.names
  own : ∀ s ∈ settings, (assignments lines).filter (·.name = s.name) = s.assignments

instance (lines : List DumpLine) (settings : Settings) : Decidable (Shows lines settings) :=
  decidable_of_iff (((assignments lines).map Assignment.name).eraseDups = settings.names ∧
      ∀ s ∈ settings, (assignments lines).filter (·.name = s.name) = s.assignments)
    ⟨fun ⟨order, own⟩ => ⟨order, own⟩, fun shows => ⟨shows.order, shows.own⟩⟩

/-! Entries, gathered by their sections. -/

def gather (given : List Assignment) : Settings :=
  (given.map Assignment.name).eraseDups.map fun name =>
    ⟨name, (given.filter (·.name = name)).map Assignment.entry⟩

variable {given : List Assignment} {a : Assignment}

theorem names_gather (given : List Assignment) :
    (gather given).names = (given.map Assignment.name).eraseDups := by
  rw [gather, names, List.map_map]
  exact List.map_id _

theorem entries_map_names (look : Text → List (Text × Text)) (all : List Text) (name : Text) :
    entries (all.map fun n => ⟨n, look n⟩) name = if name ∈ all then look name else [] := by
  induction all with
  | nil => rfl
  | cons n rest ih =>
      rw [List.map_cons, entries_cons, ih]
      by_cases here : n = name
      · simp [here]
      · simp [here, Ne.symm here]

theorem entries_gather (given : List Assignment) (name : Text) :
    entries (gather given) name =
      (given.filter (·.name = name)).map Assignment.entry := by
  rw [gather, entries_map_names]
  split
  · rfl
  · next absent =>
      rw [List.mem_eraseDups] at absent
      have nothing : given.filter (·.name = name) = [] := by
        rw [List.filter_eq_nil_iff]
        intro a member same
        exact absent (of_decide_eq_true same ▸ List.mem_map_of_mem member)
      rw [nothing, List.map_nil]

theorem update_gather
    (fresh : a.key ∉ (entries (gather given) a.name).map Prod.fst) :
    update a.name (·.add a.key a.value) (gather given) = gather (given ++ [a]) := by
  have adds := adds_add a.key a.value
  have order : names (update a.name (·.add a.key a.value) (gather given)) =
      names (gather (given ++ [a])) := by
    rw [names_update adds, names_gather, names_gather, joinBy_eraseDups, List.map_append]
    rfl
  refine eq_of_lookup (order ▸ names_gather _ ▸ nodup_eraseDups _) order fun name => ?_
  rw [entries_update adds, entries_gather (given ++ [a]), List.filter_append, List.map_append,
    ← entries_gather]
  by_cases same : name = a.name
  · subst same
    rw [if_pos rfl, joinBy_single, if_neg fresh]
    simp [Assignment.entry]
  · rw [if_neg same, joinBy_nil]
    simp [Ne.symm same]

theorem Shows.gathered {lines : List DumpLine} {settings : Settings}
    (shows : Shows lines settings) : gather (assignments lines) = settings := by
  have each : ∀ s ∈ settings, (⟨s.name,
      ((assignments lines).filter (·.name = s.name)).map Assignment.entry⟩ : Section) = s := by
    intro s member
    rw [shows.own s member, s.map_assignments]
  rw [gather, shows.order, names, List.map_map]
  exact (List.map_congr_left each).trans (List.map_id settings)

/-! Reading. -/

theorem readLine_other {line : Text} (other : ¬ text "\x60[" <+: line.trim)
    (settings : Settings) : readLine settings line = (settings, none) := by
  have missed : Text.dropLead? (text "\x60[") line.trim = none := by
    rw [Option.eq_none_iff_forall_ne_some]
    intro rest found
    exact other ⟨rest, (Text.dropLead?_eq_some_iff.1 found).symm⟩
  rw [readLine, missed]

theorem fresh_of_distinct {rest : List Assignment}
    (distinct : Distinct (gather (given ++ a :: rest))) :
    a.key ∉ (entries (gather given) a.name).map Prod.fst := by
  have own : (a :: rest).filter (·.name = a.name) = a :: rest.filter (·.name = a.name) :=
    List.filter_cons_of_pos (decide_eq_true rfl)
  have keys := distinct.nodup_entries a.name
  rw [entries_gather, List.filter_append, own, List.map_append, List.map_append,
    ← entries_gather] at keys
  exact fun before => (List.nodup_append.1 keys).2.2 _ before _ List.mem_cons_self rfl

theorem readLine_gather {l : DumpLine} {rest : List Assignment} (fit : l.Fit)
    (printable : ∀ a ∈ l.assignment?, a.Printable)
    (distinct : Distinct (gather (given ++ (l.assignment?.toList ++ rest)))) :
    readLine (gather given) l.line = (gather (given ++ l.assignment?.toList), none) := by
  cases l with
  | other line =>
      rw [show given ++ (DumpLine.other line).assignment?.toList = given from List.append_nil _]
      exact readLine_other fit.1 (gather given)
  | entry before a after =>
      obtain ⟨⟨front, _⟩, back, _⟩ := fit
      have added := update_gather (fresh_of_distinct distinct)
      exact (readLine_around (printable a rfl).toEntry front back _).trans (congrArg (·, _) added)

/-- Lines add their entries to what is there, if no key comes twice in a section. -/
theorem readLines_gather (given : List Assignment) {lines : List DumpLine}
    (fit : ∀ l ∈ lines, l.Fit)
    (printable : ∀ a ∈ assignments lines, a.Printable)
    (distinct : Distinct (gather (given ++ assignments lines))) :
    readLines (gather given) (lines.map DumpLine.line) =
      (gather (given ++ assignments lines), []) := by
  -- What is read so far is always what the entries so far make up.
  induction lines generalizing given with
  | nil => rw [assignments, List.filterMap_nil, List.append_nil, List.map_nil, readLines]
  | cons l rest ih =>
      rw [assignments_cons] at printable distinct ⊢
      rw [List.forall_mem_cons] at fit
      rw [List.forall_mem_append] at printable
      have own : ∀ a ∈ l.assignment?, a.Printable :=
        fun a member => printable.1 a (Option.mem_toList.2 member)
      rw [List.map_cons, readLines_cons (readLine_gather fit.1 own distinct)]
      rw [← List.append_assoc] at distinct ⊢
      exact ih _ fit.2 printable.2 distinct

theorem Shows.printable {lines : List DumpLine} {settings : Settings}
    (shows : Shows lines settings)
    (printable : ∀ s ∈ settings, ∀ a ∈ s.assignments, a.Printable) :
    ∀ a ∈ assignments lines, a.Printable := by
  intro a member
  have named : a.name ∈ settings.names := by
    rw [← shows.order, List.mem_eraseDups]
    exact List.mem_map_of_mem member
  obtain ⟨s, there, same⟩ := List.mem_map.1 named
  refine printable s there a ?_
  rw [← shows.own s there, List.mem_filter]
  exact ⟨member, decide_eq_true same.symm⟩

/-- Settings are read back from every dump that shows them, whatever is among its lines. -/
theorem read_shown {settings : Settings} (distinct : Distinct settings)
    (printable : ∀ s ∈ settings, ∀ a ∈ s.assignments, a.Printable)
    {lines : List DumpLine} (fit : ∀ l ∈ lines, l.Fit) (shows : Shows lines settings) :
    read (Text.joinWith (text "\n") (lines.map DumpLine.line)) = (settings, []) := by
  have each := shows.printable printable
  cases lines with
  | nil =>
      -- No lines make an empty text, and that is read as one line.
      obtain rfl : settings = [] := shows.gathered.symm
      rfl
  | cons l rest =>
      have unbroken : ∀ line ∈ (l :: rest).map DumpLine.line, .char '\n' ∉ line := by
        intro line member
        obtain ⟨l, known, rfl⟩ := List.mem_map.1 member
        refine DumpLine.unbroken (fit l known) fun a shown => each a ?_
        exact List.mem_filterMap.2 ⟨l, known, shown⟩
      have whole := readLines_gather [] fit each (shows.gathered.symm ▸ distinct)
      rw [read, show text "\n" = [.char '\n'] from rfl,
        Text.splitAt_joinWith (by simp) unbroken]
      exact whole.trans (by rw [List.nil_append, shows.gathered])

def mixedSettings : Settings := [
  ⟨text " [dacs", [(text "]a]", text "x = y; ]  "), ([], []), (text "\x60[b] c", text ";")]⟩,
  ⟨[], [(text "key", text "=1;;")]⟩]

def mixedLines : List DumpLine := [
  .other (text "~\r"),
  .entry (text " \t") ⟨text " [dacs", text "]a]", text "x = y; ]  "⟩ (text "\r"),
  .entry [] ⟨[], text "key", text "=1;;"⟩ (text " \r"),
  .other (text "see \x60[dacs] a = 2;\r"),
  .entry [] ⟨text " [dacs", [], []⟩ (text "\r"),
  .entry (text "\r\r") ⟨text " [dacs", text "\x60[b] c", text ";"⟩ [],
  .other []]

def mixedDump : Text :=
  text "~\r\n \t\x60[ [dacs] ]a] = x = y; ]  ;\r\n\x60[] key = =1;;; \r\n" ++
    text "see \x60[dacs] a = 2;\r\n\x60[ [dacs]  = ;\r\n\r\r\x60[ [dacs] \x60[b] c = ;;\n"

theorem read_mixed : Distinct mixedSettings ∧
    (∀ s ∈ mixedSettings, ∀ a ∈ s.assignments, a.Printable) ∧
    (∀ l ∈ mixedLines, l.Fit) ∧ Shows mixedLines mixedSettings ∧
    read mixedDump = (mixedSettings, []) := by
  have distinct : Distinct mixedSettings := by decide
  have printable : ∀ s ∈ mixedSettings, ∀ a ∈ s.assignments, a.Printable := by decide
  have fit : ∀ l ∈ mixedLines, l.Fit := by decide
  have shows : Shows mixedLines mixedSettings := by decide
  have whole : Text.joinWith (text "\n") (mixedLines.map DumpLine.line) = mixedDump := by
    decide +kernel
  exact ⟨distinct, printable, fit, shows, whole ▸ read_shown distinct printable fit shows⟩

end Settings

end Breadboard
