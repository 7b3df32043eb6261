import Breadboard.Proofs.Data.Dict
import Breadboard.Proofs.Terminal.Transfer

/-! What a host gets back from a channel. Whatever a channel has been given is its
own until it is released, and after that the host is left with no more than it
had before, as far as it lets go of things. -/

namespace Breadboard

namespace Host

theorem fault?_congr {h h' : Host} (faults : h'.faults = h.faults)
    (call : HostCall) : h'.fault? call = h.fault? call := by
  rw [fault?, faults]
  rfl

/-! What the host does with what it gets back. -/

theorem close_eq (d : Descriptor) (h : Host) :
    ∃ held, h.close d = { h with closed := h.closed ++ [d], held } ∧
      held ⊆ h.held ∧ (h.fault? .close = none → d ∉ held) := by
  rw [close]
  dsimp only
  split
  · next refuses =>
      refine ⟨h.held, rfl, List.Subset.refl _, fun works => ?_⟩
      rw [show h.fault? .close = _ from refuses] at works
      cases works
  · refine ⟨_, rfl, List.filter_sublist.subset, fun _ member => ?_⟩
    simpa using (List.mem_filter.1 member).2

theorem closeAll_eq (ds : List Descriptor) (h : Host) :
    ∃ held, ds.foldl (fun h d => h.close d) h =
        { h with closed := h.closed ++ ds, held } ∧
      held ⊆ h.held ∧ (h.fault? .close = none → ∀ d ∈ ds, d ∉ held) := by
  induction ds generalizing h with
  | nil =>
      refine ⟨h.held, ?_, List.Subset.refl _, fun _ => nofun⟩
      rw [List.append_nil]
      rfl
  | cons d ds ih =>
      obtain ⟨held, first, fewer, gone⟩ := h.close_eq d
      obtain ⟨held', others, fewer', gone'⟩ := ih (h.close d)
      refine ⟨held', ?_, ?_, fun works => ?_⟩
      · rw [List.foldl_cons, others, first]
        simp only [List.append_assoc, List.singleton_append]
      · rw [first] at fewer'
        exact List.Subset.trans fewer' fewer
      · rw [first] at fewer' gone'
        exact List.forall_mem_cons.2
          ⟨fun member => gone works (fewer' member), gone' works⟩

theorem remove_eq (name : Text) (h : Host) :
    ∃ files, (h.remove name).2 = { h with files } ∧ files ⊆ h.files ∧
      (h.fault? .remove = none → files.has name = false) := by
  rw [remove]
  split
  · next refuses =>
      refine ⟨h.files, rfl, List.Subset.refl _, fun works => ?_⟩
      rw [refuses] at works
      cases works
  · split
    · refine ⟨_, rfl, List.filter_sublist.subset, fun _ => Dict.has_eq_false ?_⟩
      intro entry member
      simpa using (List.mem_filter.1 member).2
    · next absent =>
        exact ⟨h.files, rfl, List.Subset.refl _, fun _ => by simpa using absent⟩

/-! What it gives out. -/

def nextPair (h : Host) : Descriptor × Descriptor :=
  (⟨h.pairs, true⟩, ⟨h.pairs, false⟩)

def paired (h : Host) : Host :=
  { h with pairs := h.pairs + 1, held := h.held ++ [h.nextPair.1, h.nextPair.2] }

theorem openPair_cases (h : Host) :
    (∃ fault, h.openPair = (.error fault, h) ∧
      h.fault? .openPair = some fault) ∨
    h.openPair = (.ok h.nextPair, h.paired) ∧ h.fault? .openPair = none := by
  rw [openPair]
  split
  · next fault fails => exact .inl ⟨fault, rfl, fails⟩
  · next works => exact .inr ⟨rfl, works⟩

theorem link_cases (target name : Text) (h : Host) :
    (∃ fault, h.link target name = (.error fault, h) ∧
      (h.fault? .link = some fault ∨ h.files.has name = true)) ∨
    h.link target name =
        (.ok (), { h with files := h.files.put name (some target) }) ∧
      h.fault? .link = none ∧ h.files.has name = false := by
  rw [link]
  split
  · next fault fails => exact .inl ⟨fault, rfl, .inl fails⟩
  · next works =>
      split
      · next there => exact .inl ⟨_, rfl, .inr there⟩
      · next free => exact .inr ⟨rfl, works, by simpa using free⟩

/-- From one state of a host to another nothing has been given out that was not
given back, as far as the host takes things back. -/
structure Regains (h h' : Host) : Prop where
  closed : ∀ d, h.pairs ≤ d.pair → d.pair < h'.pairs → d ∈ h'.closed
  held : h.fault? .close = none → h'.held ⊆ h.held
  files : h.fault? .remove = none → h'.files ⊆ h.files

end Host

namespace Channel

variable {c c' : Channel} {h h' : Host}

structure Idle (c : Channel) : Prop where
  near : c.near = none
  far : c.far = none
  unlinked : c.linked = false

theorem Idle.isOpen (idle : c.Idle) : c.isOpen = false := by
  rw [Channel.isOpen, idle.near]
  rfl

theorem idle_of (name : Option PortName) : (of name).Idle := ⟨rfl, rfl, rfl⟩

def descriptors (c : Channel) : List Descriptor := c.near.toList ++ c.far.toList

/-- From one state of a host to another nothing has been given out but to one
channel, and nothing has been given back. -/
structure Owns (c : Channel) (h h' : Host) : Prop where
  faults : h'.faults = h.faults
  opened : ∀ d, h.pairs ≤ d.pair → d.pair < h'.pairs → d ∈ c.descriptors
  held : ∀ d ∈ h'.held, d ∈ h.held ∨ d ∈ c.descriptors
  files : ∀ entry ∈ h'.files, entry ∈ h.files ∨
    c.linked = true ∧ c.chosenName = some (.path entry.1)

/-- A name under which the channel publishes its terminal by a link. -/
def Links (c : Channel) (name : Text) : Prop :=
  c.chosenName = some (.path name) ∧ name ≠ Host.terminalName

/-- The link under the chosen name is there, if one is to be. -/
def Published (c : Channel) : Prop :=
  ∀ name, c.chosenName = some (.path name) → name ≠ Host.terminalName → c.linked = true

/-! Giving back. -/

theorem idle_release (c : Channel) (h : Host) : (c.release h).1.Idle :=
  ⟨rfl, rfl, rfl⟩

theorem release_eq (c : Channel) (h : Host) :
    ∃ held files, (c.release h).2 =
        { h with closed := h.closed ++ c.descriptors, held, files } ∧
      held ⊆ h.held ∧
      (h.fault? .close = none → ∀ d ∈ c.descriptors, d ∉ held) ∧
      files ⊆ h.files ∧
      (h.fault? .remove = none → c.linked = true →
        ∀ name, c.chosenName = some (.path name) → Dict.has files name = false) := by
  obtain ⟨held, closed, fewer, gone⟩ := h.closeAll_eq c.descriptors
  rw [release]
  dsimp only
  rw [show (c.near.toList ++ c.far.toList).foldl _ h = _ from closed]
  split
  · next name chosen =>
      split
      · obtain ⟨files, removed, less, absent⟩ := Host.remove_eq name
          { h with closed := h.closed ++ c.descriptors, held }
        refine ⟨held, files, removed, fewer, gone, less, fun works _ => ?_⟩
        intro other same
        cases chosen.symm.trans same
        exact absent works
      · next unlinked =>
          exact ⟨held, h.files, rfl, fewer, gone, List.Subset.refl _,
            fun _ linked => absurd linked unlinked⟩
  · next unnamed =>
      refine ⟨held, h.files, rfl, fewer, gone, List.Subset.refl _, ?_⟩
      intro _ _ name chosen
      exact absurd chosen (unnamed name)

theorem Owns.regains (owns : c.Owns h h') : h.Regains (c.release h').2 := by
  obtain ⟨held, files, released, fewer, gone, less, absent⟩ := c.release_eq h'
  have same := Host.fault?_congr owns.faults
  rw [released]
  refine ⟨fun d new old => ?_, fun works d member => ?_, fun works entry member => ?_⟩
  · exact List.mem_append_right _ (owns.opened d new old)
  · rcases owns.held d (fewer member) with before | own
    · exact before
    · exact absurd member (gone ((same _).trans works) d own)
  · rcases owns.files entry (less member) with before | ⟨linked, chosen⟩
    · exact before
    · have missing := absent ((same _).trans works) linked entry.1 chosen
      rw [Dict.has_of_mem member] at missing
      cases missing

theorem Published.unlinks {name : Text} (published : c.Published)
    (works : h.fault? .remove = none) (chosen : c.chosenName = some (.path name))
    (other : name ≠ Host.terminalName) :
    (c.release h).2.files.has name = false := by
  obtain ⟨held, files, released, _, _, _, absent⟩ := c.release_eq h
  rw [released]
  exact absent works (published name chosen other) name chosen

/-! Which steps can fail. -/

/-- The chosen name cannot be linked: links cannot be made, or what has the name
cannot be removed. -/
inductive Unlinkable (c : Channel) (h : Host) : Prop
  | link {name : Text} {fault : HostFault} (chosen : c.chosenName = some (.path name))
      (other : name ≠ Host.terminalName) (fails : h.fault? .link = some fault) :
      Unlinkable c h
  | taken {name : Text} {fault : HostFault} (chosen : c.chosenName = some (.path name))
      (other : name ≠ Host.terminalName) (there : h.files.has name = true)
      (fails : h.fault? .remove = some fault) : Unlinkable c h

/-- A step of opening a channel fails: a call for its pair, or the link. -/
inductive Barred (c : Channel) (h : Host) : Prop
  | call {call : HostCall} {fault : HostFault}
      (opening : call ∈ [.openPair, .nameTerminal, .setRaw, .setUnblocking])
      (fails : h.fault? call = some fault) : Barred c h
  | link (unlinkable : c.Unlinkable h) : Barred c h

/-- A step of opening a channel fails with a fault that is not looked out for, and
none before it fails: the settings of the terminal cannot be changed, or what was
chosen as a name names no file. -/
inductive Escapes (c : Channel) (h : Host) : ChannelFault → Prop
  | settings {cause : HostFault}
      (works : ∀ call ∈ [.openPair, .nameTerminal], h.fault? call = none)
      (fails : h.settingsFault = some cause) : Escapes c h (.unsettled cause)
  | name {v : Value}
      (works : ∀ call ∈ [.openPair, .nameTerminal, .setRaw, .setUnblocking],
        h.fault? call = none)
      (settled : h.settingsFault = none) (chosen : c.chosenName = some (.other v)) :
      Escapes c h (.noPath v.kindName)

def Caught (c : Channel) (h : Host) : Prop := ∀ fault, ¬ c.Escapes h fault

theorem Escapes.isReported {fault : ChannelFault} (escapes : c.Escapes h fault) :
    fault.isReported = false := by
  cases escapes <;> rfl

/-- The first step that fails decides which fault it is. -/
theorem Escapes.unique {fault fault' : ChannelFault} (escapes : c.Escapes h fault)
    (escapes' : c.Escapes h fault') : fault = fault' := by
  cases escapes <;> cases escapes' <;> simp_all

theorem caught_of_early {call : HostCall} {fault : HostFault}
    (early : call ∈ [.openPair, .nameTerminal]) (fails : h.fault? call = some fault) :
    c.Caught h := by
  intro _ escapes
  have works : ∀ call ∈ [.openPair, .nameTerminal], h.fault? call = none := by
    cases escapes with
    | settings works => exact works
    | name works =>
        exact fun call member => works call (List.mem_append_left [_, _] member)
  rw [works call early] at fails
  cases fails

theorem caught_of_late {call : HostCall} {fault : HostFault}
    (settled : h.settingsFault = none) (late : call ∈ [.setRaw, .setUnblocking])
    (fails : h.fault? call = some fault) : c.Caught h := by
  intro _ escapes
  cases escapes with
  | settings _ unset =>
      rw [settled] at unset
      cases unset
  | name works =>
      rw [works call (List.mem_append_right [_, _] late)] at fails
      cases fails

theorem caught_of_settled (settled : h.settingsFault = none)
    (path : ∀ v, c.chosenName ≠ some (.other v)) : c.Caught h := by
  intro _ escapes
  cases escapes with
  | settings _ fails =>
      rw [settled] at fails
      cases fails
  | name _ _ chosen => exact path _ chosen

theorem Unlinkable.links (unlinkable : c.Unlinkable h) : ∃ name, c.Links name := by
  cases unlinkable with
  | link chosen other => exact ⟨_, chosen, other⟩
  | taken chosen other => exact ⟨_, chosen, other⟩

/-- Whether a name can be linked depends on the name, the faults and the files. -/
theorem Unlinkable.congr (unlinkable : c.Unlinkable h)
    (name : c'.chosenName = c.chosenName) (faults : h'.faults = h.faults)
    (files : h'.files = h.files) : c'.Unlinkable h' := by
  have same := Host.fault?_congr faults
  cases unlinkable with
  | link chosen other fails =>
      exact .link (name.trans chosen) other ((same _).trans fails)
  | taken chosen other there fails =>
      exact .taken (name.trans chosen) other (files ▸ there) ((same _).trans fails)

theorem has_remove {name : Text} (there : (h.remove name).2.files.has name = true) :
    h.files.has name = true ∧ ∃ fault, h.fault? .remove = some fault := by
  obtain ⟨files, removed, less, absent⟩ := h.remove_eq name
  cases fails : h.fault? .remove with
  | none =>
      rw [removed, absent fails] at there
      cases there
  | some fault =>
      rw [Host.remove, fails] at there
      exact ⟨there, fault, rfl⟩

/-- How publishing ends: the name cannot be linked, or is none of a file, or there is none
to be linked, or it is linked. -/
inductive Publishing (c : Channel) (h : Host) :
    Except ChannelFault Unit × Channel × Host → Prop
  | failed {cause : HostFault} {files : Dict (Option Text)} (unlinkable : c.Unlinkable h)
      (path : ∀ v, c.chosenName ≠ some (.other v)) (fewer : files ⊆ h.files) :
      Publishing c h (.error (.cannotCreate cause), c, { h with files })
  | noPath {v : Value} (chosen : c.chosenName = some (.other v)) :
      Publishing c h (.error (.noPath v.kindName), c, h)
  | plain (path : ∀ v, c.chosenName ≠ some (.other v)) (unnamed : ∀ name, ¬ c.Links name) :
      Publishing c h (.ok (), c, h)
  | linked {name : Text} {files : Dict (Option Text)} (free : ¬ c.Unlinkable h)
      (links : c.Links name) (more : ∀ entry ∈ files, entry ∈ h.files ∨ entry.1 = name) :
      Publishing c h (.ok (), { c with linked := true }, { h with files })

theorem publishing (c : Channel) (h : Host) : c.Publishing h (c.publish h) := by
  rw [publish]
  split
  · next unnamed =>
      refine .plain (by simp [unnamed]) fun name links => ?_
      cases unnamed.symm.trans links.1
  · next v chosen => exact .noPath chosen
  · next name chosen =>
      have path : ∀ v, c.chosenName ≠ some (.other v) := by simp [chosen]
      have own {other : Text} (same : c.chosenName = some (.path other)) : other = name := by
        cases chosen.symm.trans same
        rfl
      split
      · next taken =>
          exact .plain path fun other links => links.2 ((own links.1).trans taken)
      · next other =>
          obtain ⟨files, removed, fewer, _⟩ := h.remove_eq name
          have faults : ∀ call, (h.remove name).2.fault? call = h.fault? call :=
            Host.fault?_congr (by rw [removed])
          dsimp only
          rcases (h.remove name).2.link_cases Host.terminalName name with
            ⟨fault, linked, fails | there⟩ | ⟨linked, works, free⟩
          · rw [linked, removed]
            rw [faults] at fails
            exact .failed (.link chosen other fails) path fewer
          · rw [linked, removed]
            obtain ⟨there, _, fails⟩ := has_remove there
            exact .failed (.taken chosen other there fails) path fewer
          · rw [linked, removed]
            refine .linked (fun unlinkable => ?_) ⟨chosen, other⟩ fun entry member => ?_
            · cases unlinkable with
              | link _ _ fails =>
                  rw [faults, fails] at works
                  cases works
              | taken same _ there fails =>
                  cases own same
                  rw [Host.remove, fails, there] at free
                  cases free
            · exact (Dict.mem_of_mem_put member).elim
                (fun new => .inr (congrArg Prod.fst new)) (fun old => .inl (fewer old))

/-- A channel with both sides of a pair. -/
def paired (c : Channel) (pair : Descriptor × Descriptor) : Channel :=
  { c with near := some pair.1, far := some pair.2 }

/-- A channel with both sides of the next pair and the name of the terminal. -/
def ready (c : Channel) (h : Host) : Channel :=
  { c.paired h.nextPair with terminal := some Host.terminalName }

/-- How the steps of opening end: without a pair of descriptors, or with one and a fault
or not; a link is made last. -/
inductive Acquired (c : Channel) (h : Host) :
    Except ChannelFault Unit × Channel × Host → Prop
  | nothing {cause : HostFault} (barred : c.Barred h) (caught : c.Caught h) :
      Acquired c h (.error (.cannotCreate cause), c, h)
  | failed {cause : HostFault} {terminal : Option Text} {files : Dict (Option Text)}
      (barred : c.Barred h) (caught : c.Caught h) (fewer : files ⊆ h.files) :
      Acquired c h (.error (.cannotCreate cause), { c.paired h.nextPair with terminal },
        { h.paired with files })
  | escaped {fault : ChannelFault} (escapes : c.Escapes h fault) :
      Acquired c h (.error fault, c.ready h, h.paired)
  | plain (free : ¬ c.Barred h) (caught : c.Caught h) (unnamed : ∀ name, ¬ c.Links name) :
      Acquired c h (.ok (), c.ready h, h.paired)
  | linked {name : Text} {files : Dict (Option Text)} (free : ¬ c.Barred h)
      (caught : c.Caught h) (links : c.Links name)
      (more : ∀ entry ∈ files, entry ∈ h.files ∨ entry.1 = name) :
      Acquired c h (.ok (), { c.ready h with linked := true }, { h.paired with files })

/-- When every other step works, opening ends as publishing does. -/
theorem Publishing.acquired {result : Except ChannelFault Unit × Channel × Host}
    (publishing : (c.ready h).Publishing h.paired result)
    (works : ∀ call ∈ [.openPair, .nameTerminal, .setRaw, .setUnblocking],
      h.fault? call = none)
    (settled : h.settingsFault = none) : c.Acquired h result := by
  have free (linkable : ¬ c.Unlinkable h) : ¬ c.Barred h := by
    intro barred
    cases barred with
    | link unlinkable => exact linkable unlinkable
    | call opening fails =>
        rw [works _ opening] at fails
        cases fails
  cases publishing with
  | failed unlinkable path fewer =>
      exact .failed (.link (unlinkable.congr rfl rfl rfl)) (caught_of_settled settled path)
        fewer
  | noPath chosen => exact .escaped (.name works settled chosen)
  | plain path unnamed =>
      refine .plain (free fun unlinkable => ?_) (caught_of_settled settled path) unnamed
      obtain ⟨name, links⟩ := unlinkable.links
      exact unnamed name links
  | linked linkable links more =>
      have path : ∀ v, c.chosenName ≠ some (.other v) := by
        rw [show c.chosenName = _ from links.1]
        exact nofun
      exact .linked (free fun unlinkable => linkable (unlinkable.congr rfl rfl rfl))
        (caught_of_settled settled path) links more

theorem acquired (c : Channel) (h : Host) : c.Acquired h (c.acquire h) := by
  rw [acquire]
  rcases h.openPair_cases with ⟨fault, opened, fails⟩ | ⟨opened, first⟩
  · rw [opened]
    exact .nothing (.call (by simp) fails) (caught_of_early (by simp) fails)
  · rw [opened]
    dsimp only
    split
    · next fails =>
        exact Acquired.failed (c := c) (.call (by simp) fails)
          (caught_of_early (by simp) fails) (List.Subset.refl _)
    · next second =>
        split
        · next unset =>
            refine .escaped (.settings ?_ unset)
            simp only [List.forall_mem_cons]
            exact ⟨first, second, List.forall_mem_nil _⟩
        · next settled fails =>
            exact .failed (.call (by simp) fails) (caught_of_late settled (by simp) fails)
              (List.Subset.refl _)
        · next settled _ fails =>
            exact .failed (.call (by simp) fails) (caught_of_late settled (by simp) fails)
              (List.Subset.refl _)
        · next settled third fourth =>
            have works : ∀ call ∈ [HostCall.openPair, .nameTerminal, .setRaw,
                .setUnblocking], h.fault? call = none := by
              simp only [List.forall_mem_cons]
              exact ⟨first, second, third, fourth, List.forall_mem_nil _⟩
            exact (publishing (c.ready h) h.paired).acquired works settled

theorem owns_paired (c : Channel) (h : Host) :
    (c.paired h.nextPair).Owns h h.paired where
  faults := rfl
  opened := by
    intro d new old
    obtain ⟨pair, primary⟩ := d
    cases Nat.le_antisymm (Nat.lt_succ_iff.1 old) new
    cases primary with
    | true => exact List.mem_cons_self ..
    | false => exact List.mem_cons_of_mem _ (List.mem_cons_self ..)
  held _ member := List.mem_append.1 member
  files _ := .inl

theorem Acquired.owns {result : Except ChannelFault Unit × Channel × Host}
    (acquired : c.Acquired h result) : result.2.1.Owns h result.2.2 := by
  have owns := c.owns_paired h
  cases acquired with
  | nothing =>
      exact ⟨rfl, fun d new old => absurd old (Nat.not_lt.2 new), fun _ => .inl, fun _ => .inl⟩
  | failed _ _ fewer =>
      exact ⟨owns.faults, owns.opened, owns.held, fun entry member => .inl (fewer member)⟩
  | escaped => exact ⟨owns.faults, owns.opened, owns.held, owns.files⟩
  | plain => exact ⟨owns.faults, owns.opened, owns.held, owns.files⟩
  | linked _ _ links more =>
      refine ⟨owns.faults, owns.opened, owns.held, fun entry member => ?_⟩
      refine (more entry member).imp_right fun same => ⟨rfl, ?_⟩
      rw [same]
      exact links.1

/-- How a start of a closed channel ends: it fails, and the host gets everything back;
or a fault gets by that is not looked out for, and the channel stays open; or the channel
is opened, and no step fails. -/
inductive Starting (c : Channel) (h : Host) :
    Except ChannelFault Unit × Channel × Host → Prop
  | failed {cause : HostFault} {c' : Channel} {h' : Host} (barred : c.Barred h)
      (caught : c.Caught h) (idle : c'.Idle) (regains : h.Regains h') :
      Starting c h (.error (.cannotCreate cause), c', h')
  | escaped {fault : ChannelFault} {c' : Channel} {h' : Host}
      (escapes : c.Escapes h fault) (isOpen : c'.isOpen = true) (owns : c'.Owns h h') :
      Starting c h (.error fault, c', h')
  | opened {c' : Channel} {h' : Host} (free : ¬ c.Barred h) (caught : c.Caught h)
      (owns : c'.Owns h h') (name : c'.chosenName = c.chosenName)
      (published : c'.Published) : Starting c h (.ok (), c', h')

theorem Idle.starting (idle : c.Idle) (h : Host) : c.Starting h (c.start h) := by
  have acquired := c.acquired h
  have owns := acquired.owns
  rw [start, if_neg (by rw [idle.isOpen]; exact Bool.false_ne_true)]
  generalize c.acquire h = result at owns acquired
  cases acquired with
  | nothing barred caught =>
      exact .failed barred caught (c.idle_release h) (Owns.regains owns)
  | @failed _ terminal files barred caught =>
      exact .failed barred caught (idle_release _ { h.paired with files }) (Owns.regains owns)
  | escaped escapes =>
      dsimp only
      rw [escapes.isReported]
      exact .escaped escapes rfl owns
  | plain free caught unnamed =>
      exact .opened free caught owns rfl fun name chosen other =>
        absurd ⟨chosen, other⟩ (unnamed name)
  | linked free caught => exact .opened free caught owns rfl fun _ _ _ => rfl

end Channel

end Breadboard
