import Breadboard.Terminal.Transfer

/-! What a transfer does to the terminal. However often it is interrupted, the
terminal takes its bytes in their order, and what it has not taken yet is what
the transfer has left. -/

namespace Breadboard

namespace Host

def said (writes : List (Nat × Bytes)) : Bytes := writes.flatMap Prod.snd

theorem said_append (writes more : List (Nat × Bytes)) :
    said (writes ++ more) = said writes ++ said more :=
  List.flatMap_append

/-- From one state of a host to another the terminal has taken some bytes, and
nothing else has happened. -/
def Takes (h : Host) (data : Bytes) (h' : Host) : Prop :=
  ∃ room writes, h' = { h with room, sent := h.sent ++ writes } ∧
    said writes = data

theorem Takes.nothing (h : Host) : h.Takes [] h :=
  ⟨h.room, [], by rw [List.append_nil], rfl⟩

theorem Takes.trans {h h' h'' : Host} {data more : Bytes}
    (first : h.Takes data h') (second : h'.Takes more h'') :
    h.Takes (data ++ more) h'' := by
  obtain ⟨room, writes, rfl, rfl⟩ := first
  obtain ⟨room', others, rfl, rfl⟩ := second
  refine ⟨room', writes ++ others, ?_, said_append writes others⟩
  rw [List.append_assoc]

theorem Takes.sent {h h' : Host} {data : Bytes} (takes : h.Takes data h') :
    ∃ writes, h'.sent = h.sent ++ writes ∧ said writes = data := by
  obtain ⟨room, writes, rfl, same⟩ := takes
  exact ⟨writes, rfl, same⟩

theorem Takes.faults {h h' : Host} {data : Bytes} (takes : h.Takes data h') :
    h'.faults = h.faults := by
  obtain ⟨room, writes, rfl, _⟩ := takes
  rfl

def told : Except ε Nat → Nat
  | .ok n => n
  | .error _ => 0

theorem write_takes (data : Bytes) (h : Host) :
    h.Takes (data.take (told (h.write data).1)) (h.write data).2 := by
  rw [write]
  split
  · exact .nothing h
  · split
    · next room =>
        refine ⟨none, [(h.now, data)], ?_, by simp [said, told]⟩
        rw [← room]
    · next room _ =>
        split
        · exact .nothing h
        · exact ⟨_, [(h.now, data.take room)], rfl, by simp [said, told]⟩

/-! What does not write. -/

theorem sent_meet (i : Incident) (h : Host) : (h.meet i).sent = h.sent := by
  cases i <;> rfl

theorem read_eq (size : Nat) (h : Host) :
    ∃ waiting readFault, (h.read size).2 = { h with waiting, readFault } := by
  rw [read]
  split
  · exact ⟨h.waiting, none, rfl⟩
  · next fine =>
      split
      · exact ⟨h.waiting, h.readFault, rfl⟩
      · exact ⟨h.waiting.drop size, h.readFault, rfl⟩

theorem sent_close (d : Descriptor) (h : Host) :
    (h.close d).sent = h.sent := by
  rw [close]
  dsimp only
  split <;> rfl

theorem sent_remove (name : Text) (h : Host) :
    (h.remove name).2.sent = h.sent := by
  rw [remove]
  split
  · rfl
  · split <;> rfl

theorem fault?_setFault_eq_none {call other : HostCall}
    {fault : Option HostFault} {h : Host} (calm : call = other → fault = none)
    (free : h.fault? other = none) :
    (h.setFault call fault).fault? other = none := by
  rw [fault?, List.lookup_eq_none_iff] at free ⊢
  intro p member
  obtain new | old := List.mem_append.1 member
  · obtain ⟨cause, set, rfl⟩ :=
      Option.map_eq_some_iff.1 (Option.mem_toList.1 new)
    refine bne_iff_ne.2 fun same => ?_
    rw [calm same.symm] at set
    cases set
  · exact free p (List.mem_filter.1 old).1

end Host

namespace Channel

theorem read_eq (c : Channel) (size : Nat) (h : Host) :
    ∃ waiting readFault,
      (c.read size h).2 = { h with waiting, readFault } := by
  have host := h.read_eq size
  rw [read]
  split
  · split
    · next read =>
        rw [read] at host
        exact host
    · next read =>
        rw [read] at host
        split
        · exact host
        · split
          · exact host
          · exact host
  · exact ⟨h.waiting, h.readFault, rfl⟩

theorem sent_close (c : Channel) (h : Host) : (c.close h).2.sent = h.sent := by
  have handed : ∀ (ds : List Descriptor) (h : Host),
      (ds.foldl (fun h d => h.close d) h).sent = h.sent := by
    intro ds
    induction ds with
    | nil => exact fun _ => rfl
    | cons d ds ih => exact fun h => (ih _).trans (h.sent_close d)
  rw [close]
  split
  · rw [release]
    dsimp only
    split
    · split
      · exact (Host.sent_remove ..).trans (handed ..)
      · exact handed ..
    · exact handed ..
  · rfl

theorem near_publish (c : Channel) (h : Host) :
    (c.publish h).2.1.near = c.near := by
  rw [publish]
  split
  · rfl
  · rfl
  · split
    · rfl
    · dsimp only
      split <;> rfl

theorem isOpen_of_acquire {c c' : Channel} {h h' : Host}
    (acquired : c.acquire h = (.ok (), c', h')) : c'.isOpen = true := by
  rw [acquire] at acquired
  split at acquired
  · cases acquired
  · dsimp only at acquired
    split at acquired
    · cases acquired
    · split at acquired
      · cases acquired
      · cases acquired
      · cases acquired
      · have near := congrArg (·.2.1.near) acquired
        dsimp only at near
        rw [near_publish] at near
        rw [isOpen, ← near]
        rfl

theorem isOpen_of_start {c c' : Channel} {h h' : Host}
    (started : c.start h = (.ok (), c', h')) : c'.isOpen = true := by
  rw [start] at started
  split at started
  · cases started
  · split at started
    · next acquired =>
        cases started
        exact isOpen_of_acquire acquired
    · cases started

/-! Writes. -/

theorem write_takes (c : Channel) (data : Bytes) (h : Host) :
    h.Takes (data.take (Host.told (c.write data h).1)) (c.write data h).2 := by
  have host := h.write_takes data
  rw [write]
  split
  · split
    · next written =>
        rw [written] at host
        exact host
    · next written =>
        rw [written] at host
        split
        · exact host
        · exact host
  · exact .nothing h

/-- A channel that is open on a host that lets it write. -/
def Fine (c : Channel) (h : Host) : Prop :=
  c.isOpen = true ∧ h.fault? .write = none

theorem Fine.takes {c : Channel} {h h' : Host} {data : Bytes}
    (fine : c.Fine h) (takes : h.Takes data h') : c.Fine h' := by
  refine ⟨fine.1, ?_⟩
  rw [Host.fault?, takes.faults]
  exact fine.2

theorem write_of_fine {c : Channel} {h : Host} (fine : c.Fine h)
    (data : Bytes) : ∃ n h', c.write data h = (.ok n, h') := by
  rw [write, if_pos fine.1, Host.write, fine.2]
  cases h.room with
  | none => exact ⟨_, _, rfl⟩
  | some room =>
      dsimp only
      split
      · next blocked =>
          split at blocked
          · exact ⟨_, _, rfl⟩
          · exact ⟨_, _, rfl⟩
      · next fault h' failed =>
          split at failed
          · cases failed
            exact ⟨_, _, rfl⟩
          · cases failed

def Push.Leaves : Push → Bytes → Prop
  | done, left => left = []
  | full rest, left => rest = left
  | failed _, _ => True

theorem push_takes (c : Channel) (data : Bytes) (h : Host) :
    ∃ taken left, taken ++ left = data ∧ h.Takes taken (c.push data h).2 ∧
      (c.push data h).1.Leaves left := by
  fun_induction push c data h with
  | case1 h => exact ⟨[], [], rfl, .nothing h, rfl⟩
  | case2 data h _ fault h' written =>
      have host := c.write_takes data h
      rw [written] at host
      exact ⟨[], data, rfl, host, trivial⟩
  | case3 data h _ h' written =>
      have host := c.write_takes data h
      rw [written] at host
      exact ⟨[], data, rfl, host, rfl⟩
  | case4 data h _ n h' written ih =>
      have host := c.write_takes data h
      rw [written] at host
      obtain ⟨taken, left, whole, takes, leaves⟩ := ih
      refine ⟨data.take (n + 1) ++ taken, left, ?_, host.trans takes, leaves⟩
      rw [List.append_assoc, whole, List.take_append_drop]

theorem push_of_fine {c : Channel} {h : Host} (fine : c.Fine h)
    (data : Bytes) (fault : ChannelFault) :
    (c.push data h).1 ≠ .failed fault := by
  fun_induction push c data h with
  | case1 h => exact Push.noConfusion
  | case2 data h _ cause h' written =>
      obtain ⟨n, h'', fineWrite⟩ := write_of_fine fine data
      rw [written] at fineWrite
      cases fineWrite
  | case3 data h _ h' written => exact Push.noConfusion
  | case4 data h _ n h' written ih =>
      have host := c.write_takes data h
      rw [written] at host
      exact ih (fine.takes host)

end Channel

/-- What is left of a transfer that has come so far. One that waits has kept
its size and its patience. -/
def Progress.Leaves (size : Nat) (patience : Option Nat) :
    Progress → Bytes → Prop
  | .ended n, left => left = [] ∧ n = size
  | .waiting t, left => t.rest = left ∧ t.size = size ∧ t.patience = patience
  | .failed _, _ => True

namespace Transfer

def Patient (t : Transfer) : Prop := t.patience ≠ some 0

theorem go_takes (c : Channel) (size : Nat) {patience : Option Nat}
    (patient : patience ≠ some 0) (rest : Bytes) (h : Host) :
    ∃ taken left, taken ++ left = rest ∧
      h.Takes taken (go c size patience rest h).2 ∧
      (go c size patience rest h).1.Leaves size patience left := by
  obtain ⟨taken, left, whole, takes, leaves⟩ := c.push_takes rest h
  refine ⟨taken, left, whole, ?_⟩
  rw [go]
  split
  · next h' pushed =>
      rw [pushed] at takes leaves
      exact ⟨takes, leaves, rfl⟩
  · next fault h' pushed =>
      rw [pushed] at takes
      exact ⟨takes, trivial⟩
  · next more h' pushed =>
      rw [pushed] at takes leaves
      rw [if_neg patient]
      exact ⟨takes, leaves, rfl, rfl⟩

theorem start_takes (c : Channel) (data : Bytes) {patience : Option Nat}
    (patient : patience ≠ some 0) (h : Host) :
    ∃ taken left, taken ++ left = data ∧
      h.Takes taken (start c data patience h).2 ∧
      (start c data patience h).1.Leaves data.length patience left :=
  go_takes c data.length patient data h

theorem wake_takes (c : Channel) {t : Transfer} (patient : t.Patient)
    (h : Host) :
    ∃ taken left, taken ++ left = t.rest ∧ h.Takes taken (t.wake c h).2 ∧
      (t.wake c h).1.Leaves t.size t.patience left :=
  go_takes c t.size patient t.rest h

theorem go_of_fine {c : Channel} {h : Host} (fine : c.Fine h) (size : Nat)
    (patience : Option Nat) (rest : Bytes) (fault : ChannelFault) :
    (go c size patience rest h).1 ≠ .failed fault := by
  have push := Channel.push_of_fine fine rest
  rw [go]
  split
  · exact Progress.noConfusion
  · next cause h' pushed =>
      rw [pushed] at push
      exact absurd rfl (push cause)
  · split
    · exact Progress.noConfusion
    · exact Progress.noConfusion

theorem fine_go {c : Channel} {h : Host} (fine : c.Fine h) (size : Nat)
    (patience : Option Nat) (rest : Bytes) :
    c.Fine (go c size patience rest h).2 := by
  obtain ⟨_, _, _, takes, _⟩ := c.push_takes rest h
  have pushed : (go c size patience rest h).2 = (c.push rest h).2 := by
    rw [go]
    split
    · next push => rw [push]
    · next push => rw [push]
    · next push =>
        rw [push]
        split <;> rfl
  rw [pushed]
  exact fine.takes takes

theorem stallLimit_ne : stallLimit ≠ some 0 := by decide +kernel

def Timed (t : Transfer) : Prop :=
  t.patience.isSome = true ∧ t.deadline.isSome = true

theorem go_timed {c : Channel} {size : Nat} {patience : Option Nat}
    {rest : Bytes} {h h' : Host} {t : Transfer}
    (limited : patience.isSome = true)
    (waits : go c size patience rest h = (.waiting t, h')) : t.Timed := by
  rw [go] at waits
  split at waits
  · cases waits
  · cases waits
  · split at waits
    · cases waits
    · cases waits
      exact ⟨limited, Option.isSome_map.trans limited⟩

end Transfer

end Breadboard
