import Breadboard.Proofs.Reply.Envelope
import Breadboard.Proofs.Text.Split
import Breadboard.Reply.Settings

/-! Printed settings: a line for each entry, with its section in front. -/

namespace Breadboard

namespace Settings

def entryLine (name key value : Text) : Text :=
  text "\x60[" ++ (name ++ .char ']' :: (text " " ++ key ++ text " " ++ .char '=' ::
    (text " " ++ value ++ text ";")))

theorem entryLine_eq (name key value : Text) : entryLine name key value =
    text "\x60[" ++ (name ++ .char ']' :: (text " " ++ key ++ text " " ++ .char '=' ::
      text " ")) ++ (value ++ text ";") := by
  simp only [entryLine, List.append_assoc, List.cons_append]

structure Entry (name key value : Text) : Prop where
  closed : .char ']' ∉ name
  trimmed : key.Trimmed
  unmarked : .char '=' ∉ key
  start : ∀ c ∈ value.head?, c.isBlank = false

instance (name key value : Text) : Decidable (Entry name key value) :=
  decidable_of_iff (.char ']' ∉ name ∧ key.Trimmed ∧ .char '=' ∉ key ∧
      ∀ c ∈ value.head?, c.isBlank = false)
    ⟨fun ⟨closed, trimmed, unmarked, start⟩ => ⟨closed, trimmed, unmarked, start⟩,
      fun ⟨closed, trimmed, unmarked, start⟩ => ⟨closed, trimmed, unmarked, start⟩⟩

theorem solid_entryLine (name key value : Text) : (entryLine name key value).Solid := by
  have lead : (text "\x60[").Solid := Text.solid_of_nonblank (by decide) (by decide)
  have mark : (text ";").Solid := Text.solid_of_nonblank (by decide) (by decide)
  have whole := lead.around (name ++ .char ']' :: (text " " ++ key ++ text " " ++
    .char '=' :: (text " " ++ value))) mark
  simpa only [entryLine, List.append_assoc, List.cons_append] using whole

theorem trimmed_marked {value : Text} (start : ∀ c ∈ value.head?, c.isBlank = false) :
    (value ++ text ";").Trimmed where
  head c lead := by
    cases value with
    | nil => exact (by decide : (text ";").Trimmed).head c lead
    | cons d rest => exact start c lead
  last c final := by
    rw [List.getLast?_append] at final
    exact (by decide : (text ";").Trimmed).last c final

theorem valueOf_marked {value : Text} (start : ∀ c ∈ value.head?, c.isBlank = false) :
    valueOf (text " " ++ value ++ text ";") = value := by
  have void : (text " ").Void := by decide
  have trimmed : (text " " ++ value ++ text ";").trim = value ++ text ";" := by
    rw [List.append_assoc, Text.trim_append_of_void_left void, (trimmed_marked start).trim]
  have ends : (value ++ text ";").endsWith (text ";") = true :=
    Text.endsWith_iff.2 ⟨value, rfl⟩
  rw [valueOf, trimmed]
  simp only [ends, if_true]
  exact List.dropLast_concat

theorem readLine_around {name key value : Text} (entry : Entry name key value)
    {front back : Text} (before : front.Void) (after : back.Void) (settings : Settings) :
    readLine settings (front ++ (entryLine name key value ++ back)) =
      (update name (·.add key value) settings, none) := by
  have line : (front ++ (entryLine name key value ++ back)).trim = entryLine name key value := by
    rw [Text.trim_append_of_void_left before, Text.trim_append_of_void_right _ after,
      (solid_entryLine name key value).trim]
  have blank : (text " ").Void := by decide
  have keyed : (text " " ++ key ++ text " ").trim = key := by
    rw [Text.trim_append_of_void_right _ blank, Text.trim_append_of_void_left blank,
      entry.trimmed.trim]
  have unmarked : .char '=' ∉ text " " ++ key ++ text " " :=
    List.not_mem_append (List.not_mem_append (by decide) entry.unmarked) (by decide)
  rw [readLine, line, entryLine, Text.dropLead?_append]
  dsimp only
  rw [show text "]" = [.char ']'] from rfl, Text.cut?_single entry.closed]
  dsimp only
  rw [show text "=" = [.char '='] from rfl, Text.cut?_single unmarked]
  dsimp only
  rw [keyed, valueOf_marked entry.start]

theorem readLine_entryLine {name key value : Text} (entry : Entry name key value)
    {back : Text} (void : back.Void) (settings : Settings) :
    readLine settings (entryLine name key value ++ back) =
      (update name (·.add key value) settings, none) := by
  have before : Text.Void [] := List.forall_mem_nil _
  exact readLine_around entry before void settings

theorem readLines_cons {settings next : Settings} {line : Text} {rest : List Text}
    (first : readLine settings line = (next, none)) :
    readLines settings (line :: rest) = readLines next rest := by
  rw [readLines, first]
  rfl

theorem readLines_append (settings : Settings) (front back : List Text) :
    readLines settings (front ++ back) =
      ((readLines (readLines settings front).1 back).1,
        (readLines settings front).2 ++ (readLines (readLines settings front).1 back).2) := by
  induction front generalizing settings with
  | nil => rfl
  | cons line front ih =>
      rw [List.cons_append, readLines, readLines]
      rcases readLine settings line with ⟨next, fault⟩
      dsimp only
      rw [ih next]
      simp only [List.append_assoc]

theorem read_ended {ls : List Text} (clean : ∀ line ∈ ls, Envelope.Clean line) :
    read (Envelope.ended ls) = readLines [] (ls.map (· ++ text "\r") ++ [[]]) := by
  have shape : Envelope.ended ls =
      (ls.map (· ++ text "\r")).flatMap (· ++ [.char '\n']) := by
    rw [List.flatMap_map, Envelope.ended]
    simp only [List.append_assoc]
    rfl
  have free : ∀ line ∈ ls.map (· ++ text "\r"), .char '\n' ∉ line := by
    intro line member
    obtain ⟨own, known, rfl⟩ := List.mem_map.1 member
    exact List.not_mem_append (clean own known).no_feed (by decide)
  rw [read, shape, Text.splitAt_ended free]

end Settings

end Breadboard
