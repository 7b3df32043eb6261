import Breadboard.Config.Reader

/-! Readings step by step: one that succeeds has succeeded in every step, and
one that fails has failed in one of them. -/

namespace Breadboard.Config

variable {ε α β : Type}

theorem bind_eq_ok {x : Except ε α} {next : α → Except ε β} {b : β}
    (read : (x >>= next) = .ok b) : ∃ a, x = .ok a ∧ next a = .ok b := by
  cases x with
  | error fault => cases read
  | ok a => exact ⟨a, rfl, read⟩

theorem bind_eq_error {x : Except ε α} {next : α → Except ε β} {fault : ε}
    (failed : (x >>= next) = .error fault) :
    x = .error fault ∨ ∃ a, x = .ok a ∧ next a = .error fault := by
  cases x with
  | error first =>
      cases failed
      exact .inl rfl
  | ok a => exact .inr ⟨a, rfl, failed⟩

theorem exists_of_mapM_ok {read : α → Except ε β} {items : List α}
    {results : List β} (done : items.mapM read = .ok results) {b : β}
    (member : b ∈ results) : ∃ a ∈ items, read a = .ok b := by
  induction items generalizing results with
  | nil =>
      cases done
      cases member
  | cons a rest ih =>
      rw [List.mapM_cons] at done
      obtain ⟨first, here, done⟩ := bind_eq_ok done
      obtain ⟨others, later, done⟩ := bind_eq_ok done
      cases done
      rcases List.mem_cons.1 member with rfl | member
      · exact ⟨a, List.mem_cons_self .., here⟩
      · obtain ⟨other, known, read⟩ := ih later member
        exact ⟨other, List.mem_cons_of_mem _ known, read⟩

theorem exists_of_mapM_error {read : α → Except ε β} {items : List α}
    {fault : ε} (failed : items.mapM read = .error fault) :
    ∃ a ∈ items, read a = .error fault := by
  induction items with
  | nil => cases failed
  | cons a rest ih =>
      rw [List.mapM_cons] at failed
      rcases bind_eq_error failed with first | ⟨b, _, later⟩
      · exact ⟨a, List.mem_cons_self .., first⟩
      · rcases bind_eq_error later with others | ⟨bs, _, nothing⟩
        · obtain ⟨other, member, wrong⟩ := ih others
          exact ⟨other, List.mem_cons_of_mem _ member, wrong⟩
        · cases nothing

theorem exists_of_foldlM_error {step : β → α → Except ε β} {items : List α}
    {start : β} {fault : ε}
    (failed : items.foldlM step start = .error fault) :
    ∃ a ∈ items, ∃ b, step b a = .error fault := by
  induction items generalizing start with
  | nil => cases failed
  | cons a rest ih =>
      rw [List.foldlM_cons] at failed
      rcases bind_eq_error failed with first | ⟨b, _, later⟩
      · exact ⟨a, List.mem_cons_self .., start, first⟩
      · obtain ⟨other, member, wrong⟩ := ih later
        exact ⟨other, List.mem_cons_of_mem _ member, wrong⟩

/-! A configuration part by part. -/

def drainTimeoutOf (t : Table) : Reading Float :=
  match Dict.get? t (text "drain_timeout") with
  | some v => duration v
  | none => .ok stock.drainTimeout

def mappingsOf (t : Table) : Reading Mappings :=
  match Dict.get? t (text "mappings") with
  | some v => Reading.mappings v
  | none => .ok stock.mappings

theorem ofTable_eq (t : Table) :
    ofTable t = (do
      let serial ← section? t "serial"
      let port := serialSetting t serial "virtual_port" "port" .null
      let bufferSize ← integer
        (serialSetting t serial "buffer_size" "buffer_size" (.int 1024))
      let baudRate ← integer
        (serialSetting t serial "baud_rate" "baud_rate" (.int 115200))
      let drainTimeout ← drainTimeoutOf t
      let data ← boardTable t
      let board ← Reading.board data
      let mappings ← mappingsOf t
      return {
        port := if port.isGiven then some port else none
        bufferSize, baudRate, drainTimeout, board, mappings }) := by
  simp only [ofTable, drainTimeoutOf, mappingsOf]
  cases Dict.get? t (text "drain_timeout") <;>
    cases Dict.get? t (text "mappings") <;> rfl

end Breadboard.Config
