import Breadboard.Proofs.Terminal.Release

/-! The custody of descriptors. A channel may be opened and closed over and over,
and in each of these calls any call of the host may fail. Every descriptor that
the host gives out is handed back once, but for the two of a channel that is open,
and the link that an open channel has made goes with them if the host removes it. -/

namespace Breadboard

namespace Host

def issued (first last : Nat) : List Descriptor :=
  (List.range' first (last - first)).flatMap fun pair => [⟨pair, true⟩, ⟨pair, false⟩]

theorem issued_self (n : Nat) : issued n n = [] := by
  rw [issued, Nat.sub_self]
  rfl

theorem issued_succ {first last : Nat} (le : first ≤ last) :
    issued first (last + 1) = issued first last ++ [⟨last, true⟩, ⟨last, false⟩] := by
  rw [issued, issued, Nat.succ_sub le, List.range'_1_concat, List.flatMap_append,
    Nat.add_sub_of_le le]
  rfl

theorem issued_append {first middle last : Nat} (le : first ≤ middle)
    (le' : middle ≤ last) :
    issued first middle ++ issued middle last = issued first last := by
  rw [issued, issued, issued, ← List.flatMap_append]
  obtain ⟨k, rfl⟩ := Nat.exists_eq_add_of_le le
  obtain ⟨l, rfl⟩ := Nat.exists_eq_add_of_le le'
  rw [Nat.add_sub_cancel_left, Nat.add_sub_cancel_left, Nat.add_assoc,
    Nat.add_sub_cancel_left, List.range'_append_1]

theorem count_issued {first last : Nat} (le : first ≤ last) (d : Descriptor) :
    (issued first last).count d =
      if first ≤ d.pair ∧ d.pair < last then 1 else 0 := by
  induction le with
  | refl =>
      rw [issued_self, if_neg (by omega)]
      rfl
  | @step last le ih =>
      -- of two new descriptors at most one is the same
      have pair : ([⟨last, true⟩, ⟨last, false⟩] : List Descriptor).count d =
          if d.pair = last then 1 else 0 := by
        obtain ⟨pair, primary⟩ := d
        by_cases same : pair = last
        · cases primary <;> simp [same]
        · cases primary <;> simp [same, Ne.symm same]
      have le : first ≤ last := le
      rw [issued_succ le, List.count_append, ih, pair]
      by_cases same : d.pair = last
      · rw [if_neg (by omega), if_pos same, if_pos (by omega)]
      · have still : d.pair < last + 1 ↔ d.pair < last := by omega
        simp only [same, still, if_false, Nat.add_zero]

/-- From one state of a host to another each descriptor that was given out has been
handed back once, but for those that are kept, and no other has been. -/
def Returned (h h' : Host) (kept : List Descriptor) : Prop :=
  ∃ handed, h'.closed = h.closed ++ handed ∧ ∀ d, handed.count d =
    if h.pairs ≤ d.pair ∧ d.pair < h'.pairs ∧ d ∉ kept then 1 else 0

theorem returned_of_issued {h h' : Host} {handed kept : List Descriptor}
    (le : h.pairs ≤ h'.pairs) (closed : h'.closed = h.closed ++ handed)
    (all : handed ++ kept = issued h.pairs h'.pairs) : h.Returned h' kept := by
  refine ⟨handed, closed, fun d => ?_⟩
  have once := count_issued le d
  rw [← all, List.count_append] at once
  by_cases member : d ∈ kept
  · have some := List.count_pos_iff.2 member
    rw [if_neg (fun outside => outside.2.2 member)]
    split at once <;> omega
  · rw [List.count_eq_zero_of_not_mem member] at once
    rw [← Nat.add_zero (handed.count d), once]
    simp only [member, not_false_eq_true, and_true]

end Host

namespace Channel

variable {c c' : Channel} {h h' : Host}

theorem links_congr (name : c'.chosenName = c.chosenName) (other : Text) :
    c'.Links other ↔ c.Links other := by
  rw [Links, Links, name]

theorem Idle.descriptors (idle : c.Idle) : c.descriptors = [] := by
  rw [Channel.descriptors, idle.near, idle.far]
  rfl

/-! What a start can do. -/

/-- How a start of a closed channel ends: all that was given out has been handed
back, or the channel has the pair that was given out, be it opened or left behind. -/
inductive Started (c : Channel) (h : Host) :
    Except ChannelFault Unit × Channel × Host → Prop
  | refused {cause : HostFault} {c' : Channel} {h' : Host} (barred : c.Barred h)
      (idle : c'.Idle) (name : c'.chosenName = c.chosenName) (le : h.pairs ≤ h'.pairs)
      (closed : h'.closed = h.closed ++ Host.issued h.pairs h'.pairs)
      (files : h'.files ⊆ h.files) : Started c h (.error (.cannotCreate cause), c', h')
  | left {fault : ChannelFault} {c' : Channel} {h' : Host} (escapes : c.Escapes h fault)
      (pair : c'.descriptors = [⟨h.pairs, true⟩, ⟨h.pairs, false⟩])
      (isOpen : c'.isOpen = true) (pairs : h'.pairs = h.pairs + 1)
      (closed : h'.closed = h.closed) : Started c h (.error fault, c', h')
  | opened {c' : Channel} {h' : Host} (free : ¬ c.Barred h)
      (pair : c'.descriptors = [⟨h.pairs, true⟩, ⟨h.pairs, false⟩])
      (isOpen : c'.isOpen = true) (name : c'.chosenName = c.chosenName)
      (linked : ∀ name, c.Links name → c'.linked = true)
      (pairs : h'.pairs = h.pairs + 1) (closed : h'.closed = h.closed)
      (files : ∀ entry ∈ h'.files, entry ∈ h.files ∨ c.Links entry.1) :
      Started c h (.ok (), c', h')

/-- What a fault in opening leaves is released. -/
theorem started_release {cause : HostFault} (barred : c.Barred h)
    (name : c'.chosenName = c.chosenName) (le : h.pairs ≤ h'.pairs)
    (closed : h'.closed = h.closed) (files : h'.files ⊆ h.files)
    (all : c'.descriptors = Host.issued h.pairs h'.pairs) :
    c.Started h (.error (.cannotCreate cause), c'.release h') := by
  obtain ⟨held, left, released, _, _, fewer, _⟩ := c'.release_eq h'
  have whole : c'.release h' = ((c'.release h').1, (c'.release h').2) := rfl
  rw [whole, released]
  exact .refused barred (idle_release c' h') name le (by rw [closed, all])
    (List.Subset.trans fewer files)

theorem started (idle : c.Idle) (h : Host) : c.Started h (c.start h) := by
  have one : [⟨h.pairs, true⟩, ⟨h.pairs, false⟩] =
      Host.issued h.pairs (h.pairs + 1) := by
    rw [Host.issued_succ (Nat.le_refl _), Host.issued_self]
    rfl
  rw [start, if_neg (by rw [idle.isOpen]; exact Bool.false_ne_true)]
  have acquired := c.acquired h
  generalize c.acquire h = result at acquired
  cases acquired with
  | nothing barred =>
      refine started_release barred rfl (Nat.le_refl _) rfl (List.Subset.refl _) ?_
      rw [Host.issued_self, idle.descriptors]
  | failed barred _ fewer => exact started_release barred rfl (Nat.le_succ _) rfl fewer one
  | escaped escapes =>
      dsimp only
      rw [escapes.isReported]
      exact .left escapes rfl rfl rfl rfl
  | plain free _ unnamed =>
      exact .opened free rfl rfl rfl (fun name links => absurd links (unnamed name)) rfl rfl
        fun _ => .inl
  | linked free _ links more =>
      exact .opened free rfl rfl rfl (fun _ _ => rfl) rfl rfl fun entry member =>
        (more entry member).imp_right fun same => by rw [same]; exact links

/-! Calls one after another. -/

inductive Task where
  | start
  | close

/-- A call, which calls of the host fail during it, and which descriptors the host has not taken back
when it comes. -/
structure Call where
  task : Task
  faults : List (HostCall × HostFault) := []
  held : List Descriptor := []

/-- What a call came to. What keeps the host from removing a link is told of every
call to close. -/
inductive Event where
  | opened
  | refused (fault : ChannelFault)
  | closed (kept : Option HostFault)

def Event.ofStart : Except ChannelFault Unit → Event
  | .ok () => opened
  | .error fault => refused fault

/-- How a channel stands after its calls; one that was closed after it was opened may
have kept its link. -/
inductive Phase where
  | fresh
  | opened
  | closed (kept : Option HostFault)

def Phase.next : Phase → Event → Phase
  | _, .opened => opened
  | phase, .refused _ => phase
  | opened, .closed kept => closed kept
  | phase, .closed _ => phase

def phase (events : List Event) : Phase := events.foldl Phase.next .fresh

theorem phase_append (events : List Event) (event : Event) :
    phase (events ++ [event]) = (phase events).next event :=
  List.foldl_append ..

@[simp] theorem phase_opened (events : List Event) :
    phase (events ++ [.opened]) = .opened := by
  rw [phase_append]
  cases phase events <;> rfl

@[simp] theorem phase_refused (events : List Event) (fault : ChannelFault) :
    phase (events ++ [.refused fault]) = phase events := by
  rw [phase_append]
  cases phase events <;> rfl

theorem phase_closed {events : List Event} (opened : phase events = .opened)
    (kept : Option HostFault) : phase (events ++ [.closed kept]) = .closed kept := by
  rw [phase_append, opened]
  rfl

theorem phase_still {events : List Event} (shut : phase events ≠ .opened)
    (kept : Option HostFault) : phase (events ++ [.closed kept]) = phase events := by
  rw [phase_append]
  cases now : phase events with
  | fresh => rfl
  | opened => exact absurd now shut
  | closed => rfl

structure Usage where
  channel : Channel
  host : Host
  events : List Event := []

namespace Usage

def perform (u : Usage) (call : Call) : Usage :=
  let h : Host :=
    { u.host with faults := call.faults, settingsFault := none, held := call.held }
  match call.task with
  | .start =>
      let (result, channel, host) := u.channel.start h
      { channel, host, events := u.events ++ [.ofStart result] }
  | .close =>
      let (channel, host) := u.channel.close h
      { channel, host, events := u.events ++ [.closed (h.fault? .remove)] }

def after (u : Usage) (calls : List Call) : Usage := calls.foldl perform u

end Usage

/-- What has been handed back and what the channel has are all that was given out;
the channel has a pair and its link if it was opened last, and nothing otherwise. -/
structure Custody (c₀ : Channel) (h₀ : Host) (u : Usage) : Prop where
  name : u.channel.chosenName = c₀.chosenName
  path : ∀ v, c₀.chosenName ≠ some (.other v)
  le : h₀.pairs ≤ u.host.pairs
  handed : ∃ handed, u.host.closed = h₀.closed ++ handed ∧
    handed ++ u.channel.descriptors = Host.issued h₀.pairs u.host.pairs
  pair : phase u.events = .opened →
    u.channel.isOpen = true ∧
      ∃ n, u.channel.descriptors = [⟨n, true⟩, ⟨n, false⟩]
  linked : phase u.events = .opened →
    ∀ name, c₀.Links name → u.channel.linked = true
  idle : phase u.events ≠ .opened → u.channel.Idle
  files : ∀ entry ∈ u.host.files, entry ∈ h₀.files ∨ c₀.Links entry.1
  untouched : phase u.events = .fresh → u.host.files ⊆ h₀.files
  removed : phase u.events = .closed none →
    ∀ name, c₀.Links name → u.host.files.has name = false

namespace Custody

variable {c₀ : Channel} {h₀ : Host} {u u' : Usage}

theorem begun (name : Option Text) (h₀ : Host) :
    Custody (closed name) h₀ ⟨closed name, h₀, []⟩ where
  name := rfl
  path v := by cases name <;> simp [closed, of, Option.filter]
  le := Nat.le_refl _
  handed := ⟨[], (List.append_nil _).symm, (Host.issued_self _).symm⟩
  pair := nofun
  linked := nofun
  idle _ := idle_of (name.map .path)
  files _ := .inl
  untouched _ := List.Subset.refl _
  removed := nofun

/-- What fails is not a matter of custody, nor what the host holds. -/
theorem congr (custody : Custody c₀ h₀ u) (channel : u'.channel = u.channel)
    (pairs : u'.host.pairs = u.host.pairs) (closed : u'.host.closed = u.host.closed)
    (files : u'.host.files = u.host.files)
    (same : phase u'.events = phase u.events) : Custody c₀ h₀ u' where
  name := by rw [channel]; exact custody.name
  path := custody.path
  le := by rw [pairs]; exact custody.le
  handed := by rw [closed, channel, pairs]; exact custody.handed
  pair := by rw [same, channel]; exact custody.pair
  linked := by rw [same, channel]; exact custody.linked
  idle := by rw [same, channel]; exact custody.idle
  files := by rw [files]; exact custody.files
  untouched := by rw [same, files]; exact custody.untouched
  removed := by rw [same, files]; exact custody.removed

theorem refused (custody : Custody c₀ h₀ u) (shut : phase u.events ≠ .opened)
    (idle : c'.Idle) (name : c'.chosenName = u.channel.chosenName)
    (le : u.host.pairs ≤ h'.pairs)
    (handed : h'.closed = u.host.closed ++ Host.issued u.host.pairs h'.pairs)
    (files : h'.files ⊆ u.host.files) (fault : ChannelFault) :
    Custody c₀ h₀ ⟨c', h', u.events ++ [.refused fault]⟩ where
  name := name.trans custody.name
  path := custody.path
  le := Nat.le_trans custody.le le
  handed := by
    obtain ⟨before, closed, all⟩ := custody.handed
    -- a closed channel has none of what was given out before, so it is all handed back
    rw [(custody.idle shut).descriptors, List.append_nil] at all
    refine ⟨before ++ Host.issued u.host.pairs h'.pairs, ?_, ?_⟩
    · rw [handed, closed, List.append_assoc]
    · rw [idle.descriptors, List.append_nil, all, Host.issued_append custody.le le]
  pair := by simp [shut]
  linked := by simp [shut]
  idle _ := idle
  files entry member := custody.files entry (files member)
  untouched := by
    rw [phase_refused]
    exact fun none => List.Subset.trans files (custody.untouched none)
  removed := by
    rw [phase_refused]
    intro gone other links
    have absent := custody.removed gone other links
    refine Dict.has_eq_false fun entry member same => ?_
    rw [← same, Dict.has_of_mem (files member)] at absent
    cases absent

theorem opened (custody : Custody c₀ h₀ u) (shut : phase u.events ≠ .opened)
    (pair : c'.descriptors = [⟨u.host.pairs, true⟩, ⟨u.host.pairs, false⟩])
    (isOpen : c'.isOpen = true) (name : c'.chosenName = u.channel.chosenName)
    (linked : ∀ name, u.channel.Links name → c'.linked = true)
    (pairs : h'.pairs = u.host.pairs + 1) (same : h'.closed = u.host.closed)
    (files : ∀ entry ∈ h'.files, entry ∈ u.host.files ∨ u.channel.Links entry.1) :
    Custody c₀ h₀ ⟨c', h', u.events ++ [.opened]⟩ where
  name := name.trans custody.name
  path := custody.path
  le := by rw [pairs]; exact Nat.le_succ_of_le custody.le
  handed := by
    obtain ⟨before, handed, all⟩ := custody.handed
    rw [(custody.idle shut).descriptors, List.append_nil] at all
    refine ⟨before, same.trans handed, ?_⟩
    rw [pair, pairs, all, Host.issued_succ custody.le]
  pair _ := ⟨isOpen, _, pair⟩
  linked _ other links := linked other ((links_congr custody.name other).2 links)
  idle never := absurd (phase_opened _) never
  files entry member := by
    rcases files entry member with before | links
    · exact custody.files entry before
    · exact .inr ((links_congr custody.name _).1 links)
  untouched := by simp
  removed := by simp

theorem start (custody : Custody c₀ h₀ u) (settled : u.host.settingsFault = none) :
    Custody c₀ h₀ {
      channel := (u.channel.start u.host).2.1
      host := (u.channel.start u.host).2.2
      events := u.events ++ [.ofStart (u.channel.start u.host).1] } := by
  by_cases opened : phase u.events = .opened
  · rw [Channel.start, if_pos (custody.pair opened).1]
    exact custody.congr rfl rfl rfl rfl (phase_refused ..)
  · have started := started (custody.idle opened) u.host
    generalize u.channel.start u.host = result at started
    cases started with
    | left escapes =>
        refine absurd escapes (caught_of_settled settled ?_ _)
        exact custody.name ▸ custody.path
    | refused _ idle name le handed files =>
        exact custody.refused opened idle name le handed files _
    | opened _ pair isOpen name linked pairs same files =>
        exact custody.opened opened pair isOpen name linked pairs same files

theorem release (custody : Custody c₀ h₀ u) (opened : phase u.events = .opened) :
    Custody c₀ h₀ {
      channel := (u.channel.release u.host).1
      host := (u.channel.release u.host).2
      events := u.events ++ [.closed (u.host.fault? .remove)] } := by
  obtain ⟨held, files, released, _, _, fewer, absent⟩ := u.channel.release_eq u.host
  have idle := idle_release u.channel u.host
  have now := phase_closed opened (u.host.fault? .remove)
  rw [released]
  exact {
    name := custody.name
    path := custody.path
    le := custody.le
    handed := by
      obtain ⟨before, closed, all⟩ := custody.handed
      refine ⟨before ++ u.channel.descriptors, ?_, ?_⟩
      · rw [closed, List.append_assoc]
      · rw [idle.descriptors, List.append_nil, all]
    pair := by simp [now]
    linked := by simp [now]
    idle := fun _ => idle
    files := fun entry member => custody.files entry (fewer member)
    untouched := by simp [now]
    removed := by
      rw [now]
      intro gone other links
      have works : u.host.fault? .remove = none := by simpa using gone
      exact absent works (custody.linked opened other links) other (custody.name.trans links.1) }

theorem close (custody : Custody c₀ h₀ u) :
    Custody c₀ h₀ {
      channel := (u.channel.close u.host).1
      host := (u.channel.close u.host).2
      events := u.events ++ [.closed (u.host.fault? .remove)] } := by
  by_cases opened : phase u.events = .opened
  · rw [Channel.close, if_pos (custody.pair opened).1]
    exact custody.release opened
  · rw [Channel.close, if_neg (by simp [(custody.idle opened).isOpen])]
    exact custody.congr rfl rfl rfl rfl (phase_still opened _)

theorem perform (custody : Custody c₀ h₀ u) (call : Call) : Custody c₀ h₀ (u.perform call) := by
  obtain ⟨task, faults, held⟩ := call
  have now : Custody c₀ h₀
      { u with host := { u.host with faults, settingsFault := none, held } } :=
    custody.congr rfl rfl rfl rfl rfl
  cases task with
  | start => exact now.start rfl
  | close => exact now.close

theorem after (custody : Custody c₀ h₀ u) (calls : List Call) :
    Custody c₀ h₀ (u.after calls) := by
  induction calls generalizing u with
  | nil => exact custody
  | cons call calls ih => exact ih (custody.perform call)

theorem isOpen_iff (custody : Custody c₀ h₀ u) :
    u.channel.isOpen = true ↔ phase u.events = .opened := by
  by_cases opened : phase u.events = .opened
  · simp [opened, custody.pair opened]
  · simp [opened, (custody.idle opened).isOpen]

theorem returned (custody : Custody c₀ h₀ u) : h₀.Returned u.host u.channel.descriptors := by
  obtain ⟨handed, closed, all⟩ := custody.handed
  exact Host.returned_of_issued custody.le closed all

/-- What is found under a name that the channel publishes is of its making while the
channel is open, or if it was not removed. -/
theorem entry (custody : Custody c₀ h₀ u) {entry : Text × Option Text}
    (member : entry ∈ u.host.files) :
    (entry ∈ h₀.files ∧ (c₀.Links entry.1 → phase u.events = .fresh)) ∨
      c₀.Links entry.1 ∧ (u.channel.isOpen = true ∨
        ∃ cause, phase u.events = .closed (some cause)) := by
  by_cases links : c₀.Links entry.1
  · cases now : phase u.events with
    | fresh => exact .inl ⟨custody.untouched now member, fun _ => rfl⟩
    | opened => exact .inr ⟨links, .inl (custody.isOpen_iff.2 now)⟩
    | closed kept =>
        cases kept with
        | some cause => exact .inr ⟨links, .inr ⟨cause, rfl⟩⟩
        | none =>
            have absent := custody.removed now entry.1 links
            rw [Dict.has_of_mem member] at absent
            cases absent
  · exact .inl ⟨(custody.files entry member).resolve_right links, fun own => absurd own links⟩

end Custody

/-- How a start ends. An open channel is left as it is; if a step fails, a closed one is
closed after it, and what the host gave out is with the host again. After a fault that
is not looked out for it is left open, with what it was given. -/
inductive Opening (c : Channel) (h : Host) : Except ChannelFault Unit × Channel × Host → Prop
  | again (opened : c.isOpen = true) : Opening c h (.error .alreadyOpen, c, h)
  | failed {cause : HostFault} {c' : Channel} {h' : Host} (shut : c.isOpen = false)
      (barred : c.Barred h) (near : c'.near = none) (far : c'.far = none)
      (returned : h.Returned h' []) : Opening c h (.error (.cannotCreate cause), c', h')
  | left {fault : ChannelFault} {c' : Channel} {h' : Host} (shut : c.isOpen = false)
      (escapes : c.Escapes h fault) (isOpen : c'.isOpen = true)
      (returned : h.Returned h' c'.descriptors) : Opening c h (.error fault, c', h')
  | opened {c' : Channel} {h' : Host} (shut : c.isOpen = false) (free : ¬ c.Barred h)
      (isOpen : c'.isOpen = true) (returned : h.Returned h' c'.descriptors) :
      Opening c h (.ok (), c', h')

theorem Idle.opening (idle : c.Idle) (h : Host) : c.Opening h (c.start h) := by
  have started := started idle h
  have kept {c' : Channel} {h' : Host}
      (pair : c'.descriptors = [⟨h.pairs, true⟩, ⟨h.pairs, false⟩])
      (pairs : h'.pairs = h.pairs + 1) (closed : h'.closed = h.closed) :
      h.Returned h' c'.descriptors := by
    have nothing : h'.closed = h.closed ++ [] := by rw [closed, List.append_nil]
    refine Host.returned_of_issued (by rw [pairs]; exact Nat.le_succ _) nothing ?_
    rw [pair, pairs, Host.issued_succ (Nat.le_refl _), Host.issued_self]
  generalize c.start h = result at started
  cases started with
  | refused barred idle' name le closed files =>
      refine .failed idle.isOpen barred idle'.near idle'.far ?_
      exact Host.returned_of_issued le closed (List.append_nil _)
  | left escapes pair isOpen pairs closed =>
      exact .left idle.isOpen escapes isOpen (kept pair pairs closed)
  | opened free pair isOpen _ _ pairs closed =>
      exact .opened idle.isOpen free isOpen (kept pair pairs closed)

theorem Custody.opening {c₀ : Channel} {h₀ : Host} {u : Usage}
    (custody : Custody c₀ h₀ u) (h : Host) : u.channel.Opening h (u.channel.start h) := by
  by_cases opened : phase u.events = .opened
  · obtain ⟨isOpen, _⟩ := custody.pair opened
    rw [Channel.start, if_pos isOpen]
    exact .again isOpen
  · exact (custody.idle opened).opening h

end Channel

end Breadboard
