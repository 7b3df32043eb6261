import Breadboard.Proofs.Data.Join
import Breadboard.Proofs.Reply.Settings

/-! Settings as what is looked up in them: the names of the sections and the
entries of each. Reading adds to both what is new by its key, so two dumps that
follow each other are read as their settings merged. -/

namespace Breadboard

namespace Settings

/-! What is looked up. -/

def names (settings : Settings) : List Text := settings.map Section.name

def entries (settings : Settings) (name : Text) : List (Text × Text) :=
  ((find? settings name).map Section.entries).getD []

/-- No section is there twice, and no key in a section. -/
structure Distinct (settings : Settings) : Prop where
  names : settings.names.Nodup
  keys : ∀ s ∈ settings, (s.entries.map Prod.fst).Nodup

instance (settings : Settings) : Decidable (Distinct settings) :=
  decidable_of_iff (settings.names.Nodup ∧ ∀ s ∈ settings, (s.entries.map Prod.fst).Nodup)
    ⟨fun ⟨names, keys⟩ => ⟨names, keys⟩, fun distinct => ⟨distinct.names, distinct.keys⟩⟩

def merge (first more : Settings) : Settings :=
  (first.map fun s => ⟨s.name, joinBy Prod.fst s.entries (entries more s.name)⟩) ++
    newBy Section.name (names first) more

variable {settings first more merged : Settings} {name : Text} {change : Section → Section}

theorem names_nil : names [] = [] := rfl

theorem names_cons (s : Section) (settings : Settings) :
    names (s :: settings) = s.name :: names settings := rfl

theorem entries_nil (name : Text) : entries [] name = [] := rfl

theorem entries_cons (s : Section) (settings : Settings) (name : Text) :
    entries (s :: settings) name = if s.name = name then s.entries else entries settings name := by
  rw [entries, find?, List.find?_cons]
  by_cases here : s.name = name
  · simp [here]
  · simp [here, entries, find?]

theorem entries_of_notMem (absent : name ∉ settings.names) : entries settings name = [] := by
  induction settings with
  | nil => rfl
  | cons s rest ih =>
      rw [names_cons, List.mem_cons, not_or] at absent
      rw [entries_cons, if_neg (Ne.symm absent.1), ih absent.2]

/-- Settings are told by the names of the sections and the entries of each. -/
theorem eq_map_names (distinct : settings.names.Nodup) :
    (settings.names.map fun name => ⟨name, entries settings name⟩) = settings := by
  induction settings with
  | nil => rfl
  | cons s rest ih =>
      rw [names_cons, List.nodup_cons] at distinct
      have others : ∀ name ∈ names rest, entries (s :: rest) name = entries rest name := by
        intro name member
        rw [entries_cons, if_neg]
        rintro rfl
        exact distinct.1 member
      rw [names_cons, List.map_cons, entries_cons, if_pos rfl]
      conv_rhs => rw [← ih distinct.2]
      exact congrArg _ (List.map_congr_left fun name member => by rw [others name member])

theorem eq_of_lookup {other : Settings} (distinct : settings.names.Nodup)
    (same : settings.names = other.names)
    (each : ∀ name, entries settings name = entries other name) : settings = other := by
  have own := eq_map_names distinct
  have others := eq_map_names (same ▸ distinct : other.names.Nodup)
  rw [← own, ← others, same]
  exact List.map_congr_left fun name _ => by rw [each]

/-! Joined settings. -/

/-- What is looked up in `joined` is what is in `first`, and then what is new in `more`. -/
structure Joins (first more joined : Settings) : Prop where
  names : joined.names = joinBy id first.names more.names
  entries : ∀ name, entries joined name =
    joinBy Prod.fst (entries first name) (entries more name)

theorem Joins.assoc {a b c ab bc abc : Settings} (left : Joins a b ab) (outer : Joins ab c abc)
    (right : Joins b c bc) : Joins a bc abc where
  names := by rw [outer.names, left.names, right.names, joinBy_assoc]
  entries name := by
    rw [outer.entries, left.entries, right.entries, joinBy_assoc]

theorem joins_nil (settings : Settings) : Joins settings [] settings where
  names := (joinBy_nil id _).symm
  entries _ := (joinBy_nil Prod.fst _).symm

/-! One line. -/

def Adds (change : Section → Section) (more : List (Text × Text)) : Prop :=
  ∀ s, change s = ⟨s.name, joinBy Prod.fst s.entries more⟩

theorem adds_id : Adds id [] := fun s => by rw [joinBy_nil]; rfl

theorem adds_add (key value : Text) : Adds (·.add key value) [(key, value)] := by
  intro s
  have known : s.get? key = none ↔ key ∉ s.entries.map Prod.fst := by
    rw [Section.get?, List.lookup_eq_none_iff]
    constructor
    · intro other member
      obtain ⟨entry, within, rfl⟩ := List.mem_map.1 member
      simpa using other entry within
    · intro absent entry within
      rw [bne_iff_ne]
      rintro rfl
      exact absent (List.mem_map_of_mem within)
  dsimp only
  rw [Section.add, joinBy_single]
  by_cases there : key ∈ s.entries.map Prod.fst
  · have got : (s.get? key).isSome = true := by
      rw [Option.isSome_iff_ne_none]
      exact fun none => known.1 none there
    rw [if_pos got, if_pos there]
  · rw [known.2 there, if_neg there]
    rfl

theorem Adds.same_name {more : List (Text × Text)} (adds : Adds change more) (s : Section) :
    (change s).name = s.name := by
  rw [adds]

theorem names_update {more : List (Text × Text)} (adds : Adds change more) (name : Text)
    (settings : Settings) : (update name change settings).names =
      joinBy id settings.names [name] := by
  induction settings with
  | nil =>
      change [(change ⟨name, []⟩).name] = joinBy id [] [name]
      rw [adds.same_name, nil_joinBy]
  | cons s rest ih =>
      rw [update]
      split
      · next here =>
          subst here
          have known : ∀ x ∈ [s.name], id x ∈ (names (s :: rest)).map id := by
            simp [names_cons]
          rw [joinBy_known known]
          exact congrArg (· :: names rest) (adds.same_name s)
      · next other =>
          change s.name :: names (update name change rest) = joinBy id (s.name :: names rest) [name]
          rw [ih, joinBy_single, joinBy_single]
          simp only [List.map_id, id, List.mem_cons, Ne.symm other, false_or]
          split <;> rfl

theorem entries_update {more : List (Text × Text)} (adds : Adds change more) (name other : Text)
    (settings : Settings) : entries (update name change settings) other =
      joinBy Prod.fst (entries settings other) (if other = name then more else []) := by
  induction settings with
  | nil =>
      change entries [change ⟨name, []⟩] other = joinBy Prod.fst [] _
      rw [entries_cons, adds, nil_joinBy, nil_joinBy]
      simp only [eq_comm]
      rfl
  | cons s rest ih =>
      rw [update]
      split
      · next here =>
          subst here
          rw [entries_cons, entries_cons, adds]
          by_cases same : other = s.name
          · subst same
            simp
          · simp [same, Ne.symm same, joinBy_nil]
      · next apart =>
          rw [entries_cons, entries_cons, ih]
          by_cases same : s.name = other
          · subst same
            simp [apart, joinBy_nil]
          · simp [same]

theorem joins_update {more : List (Text × Text)} (adds : Adds change more) (name : Text)
    (settings : Settings) :
    Joins settings (update name change []) (update name change settings) where
  names := by rw [names_update adds, names_update adds, names_nil, nil_joinBy]
  entries other := by
    rw [entries_update adds, entries_update adds, entries_nil, nil_joinBy]

/-- A line adds the same to all settings. -/
theorem joins_readLine (settings : Settings) (line : Text) :
    Joins settings (readLine [] line).1 (readLine settings line).1 ∧
      (readLine settings line).2 = (readLine [] line).2 := by
  unfold readLine
  split
  · exact ⟨joins_nil settings, rfl⟩
  · split
    · exact ⟨joins_nil settings, rfl⟩
    · split
      · exact ⟨joins_update adds_id _ settings, rfl⟩
      · exact ⟨joins_update (adds_add _ _) _ settings, rfl⟩

theorem joins_readLines (settings : Settings) (lines : List Text) :
    Joins settings (readLines [] lines).1 (readLines settings lines).1 ∧
      (readLines settings lines).2 = (readLines [] lines).2 := by
  -- The settings vary: what the later lines add, they add to what the first line leaves.
  induction lines generalizing settings with
  | nil => exact ⟨joins_nil settings, rfl⟩
  | cons line rest ih =>
      obtain ⟨one, fault⟩ := joins_readLine settings line
      obtain ⟨own, faults⟩ := ih (readLine [] line).1
      obtain ⟨others, faults'⟩ := ih (readLine settings line).1
      rw [readLines, readLines]
      refine ⟨one.assoc others own, ?_⟩
      dsimp only
      rw [fault, faults, faults']

/-! Distinct names and keys. -/

theorem Joins.nodup_names (joins : Joins first more merged) (own : first.names.Nodup)
    (others : more.names.Nodup) : merged.names.Nodup := by
  rw [joins.names]
  rw [← List.map_id first.names] at own
  rw [← List.map_id more.names] at others
  have both := nodup_joinBy own others
  rwa [List.map_id] at both

theorem Distinct.nodup_entries (distinct : Distinct settings) (name : Text) :
    ((entries settings name).map Prod.fst).Nodup := by
  rw [entries]
  cases found : find? settings name with
  | none => exact List.nodup_nil
  | some s => exact distinct.keys s (List.mem_of_find?_eq_some found)

theorem distinct_of_nodup (distinct : settings.names.Nodup)
    (each : ∀ name, ((entries settings name).map Prod.fst).Nodup) : Distinct settings where
  names := distinct
  keys s member := by
    rw [← eq_map_names distinct] at member
    obtain ⟨name, _, rfl⟩ := List.mem_map.1 member
    exact each name

theorem Joins.distinct (joins : Joins first more merged) (own : Distinct first)
    (others : Distinct more) : Distinct merged :=
  distinct_of_nodup (joins.nodup_names own.names others.names) fun name => by
    rw [joins.entries]
    exact nodup_joinBy (own.nodup_entries name) (others.nodup_entries name)

theorem distinct_nil : Distinct [] where
  names := List.nodup_nil
  keys _ member := absurd member List.not_mem_nil

theorem distinct_update {more : List (Text × Text)} (adds : Adds change more) (name : Text)
    (distinct : (more.map Prod.fst).Nodup) : Distinct (update name change []) where
  names := by
    rw [names_update adds]
    exact List.nodup_singleton name
  keys s member := by
    rw [List.mem_singleton.1 member, adds, nil_joinBy]
    exact distinct

theorem distinct_readLine (line : Text) : Distinct (readLine [] line).1 := by
  unfold readLine
  split
  · exact distinct_nil
  · split
    · exact distinct_nil
    · split
      · exact distinct_update adds_id _ List.nodup_nil
      · exact distinct_update (adds_add _ _) _ (List.nodup_singleton _)

theorem distinct_readLines (lines : List Text) : Distinct (readLines [] lines).1 := by
  induction lines with
  | nil => exact distinct_nil
  | cons line rest ih =>
      rw [readLines]
      exact (joins_readLines _ rest).1.distinct (distinct_readLine line) ih

/-! Merging. -/

theorem entries_append (first more : Settings) (name : Text) :
    entries (first ++ more) name =
      if name ∈ names first then entries first name else entries more name := by
  induction first with
  | nil => rfl
  | cons s rest ih =>
      rw [List.cons_append, entries_cons, entries_cons, ih, names_cons]
      by_cases here : s.name = name
      · simp [here]
      · simp [here, Ne.symm here]

theorem entries_map (add : Text → List (Text × Text)) (settings : Settings) (name : Text) :
    entries (settings.map fun s => ⟨s.name, joinBy Prod.fst s.entries (add s.name)⟩) name =
      if name ∈ names settings then joinBy Prod.fst (entries settings name) (add name) else [] := by
  induction settings with
  | nil => rfl
  | cons s rest ih =>
      rw [List.map_cons, entries_cons, entries_cons, ih, names_cons]
      by_cases here : s.name = name
      · simp [here]
      · simp [here, Ne.symm here]

theorem entries_newBy {known : List Text} (absent : name ∉ known) (settings : Settings) :
    entries (newBy Section.name known settings) name = entries settings name := by
  induction settings with
  | nil => rfl
  | cons s rest ih =>
      rw [newBy, List.filter_cons, ← newBy]
      split
      · rw [entries_cons, entries_cons, ih]
      · next there =>
          have other : s.name ≠ name := by
            rintro rfl
            exact there (decide_eq_true absent)
          rw [ih, entries_cons, if_neg other]

theorem joins_merge (first more : Settings) : Joins first more (merge first more) where
  names := by
    rw [merge, names, List.map_append, List.map_map, map_newBy, joinBy, List.map_id]
    rfl
  entries name := by
    have kept : names (first.map fun s =>
        ⟨s.name, joinBy Prod.fst s.entries (entries more s.name)⟩) = names first := by
      rw [names, List.map_map]
      rfl
    rw [merge, entries_append, kept, entries_map]
    by_cases there : name ∈ names first
    · rw [if_pos there, if_pos there]
    · rw [if_neg there, entries_newBy there, entries_of_notMem there, nil_joinBy]

theorem Joins.eq_merge (joins : Joins first more merged) (distinct : merged.names.Nodup) :
    merged = merge first more :=
  eq_of_lookup distinct (joins.names.trans (joins_merge first more).names.symm) fun name =>
    (joins.entries name).trans ((joins_merge first more).entries name).symm

theorem merge_self (distinct : Distinct settings) : merge settings settings = settings := by
  have joins : Joins settings settings settings :=
    ⟨(joinBy_known fun x member => by rwa [List.map_id]).symm,
      fun name => (joinBy_known fun x member => List.mem_map_of_mem member).symm⟩
  exact (joins.eq_merge distinct.names).symm

/-- Two dumps, one after the other, are read as their settings merged and as their
faults in a row. Names and keys are distinct, and a dump that is repeated adds nothing. -/
theorem read_merge (dump next : Text) :
    read (dump ++ .char '\n' :: next) =
        (merge (read dump).1 (read next).1, (read dump).2 ++ (read next).2) ∧
      Distinct (read dump).1 ∧ (read (dump ++ .char '\n' :: dump)).1 = (read dump).1 := by
  have both : ∀ next, read (dump ++ .char '\n' :: next) =
      (merge (read dump).1 (read next).1, (read dump).2 ++ (read next).2) := by
    intro next
    have distinct := distinct_readLines (Text.splitAt (.char '\n') (dump ++ .char '\n' :: next))
    rw [Text.splitAt_append_mark, readLines_append] at distinct
    obtain ⟨joins, faults⟩ := joins_readLines (read dump).1 (Text.splitAt (.char '\n') next)
    rw [read, Text.splitAt_append_mark, readLines_append]
    refine Prod.ext (joins.eq_merge distinct.names) ?_
    exact congrArg ((read dump).2 ++ ·) faults
  have distinct : Distinct (read dump).1 := distinct_readLines _
  exact ⟨both next, distinct, by rw [both dump, merge_self distinct]⟩

end Settings

end Breadboard
