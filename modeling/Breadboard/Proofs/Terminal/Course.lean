import Breadboard.Proofs.Terminal.Transfer

/-! Transfers call by call. Between two calls the host may change in any way;
still the terminal has taken the beginning of the data at every moment, each
write offers all that is left, and the terminal is watched for room only as long
as the transfer waits for it. -/

namespace Breadboard

theorem Host.write_le {data : Bytes} {h h' : Host} {n : Nat}
    (written : h.write data = (.ok n, h')) : n ≤ data.length := by
  rw [Host.write] at written
  split at written
  · cases written
  · split at written
    · cases written
      exact Nat.le_refl _
    · split at written
      · cases written
      · cases written
        exact List.length_take_le' ..

namespace Transfer

inductive Ending where
  | room
  | late
  | cancelled
  deriving DecidableEq

inductive Call where
  | write (offered : Bytes) (answer : Except HostFault Nat)
  | watch
  | wait (ending : Ending)
  | unwatch

inductive Stage where
  | writing
  | waiting
  | returned (taken : Nat)
  | failed (fault : ChannelFault)
  | cancelled
  deriving DecidableEq

inductive Turn where
  /-- From now on the host is like this one, but for what it has taken. -/
  | meanwhile (host : Host)
  | write
  | wait (ending : Ending)

/-- The call in which a channel passes a write on to its host; a closed one does
not. -/
def asked (c : Channel) (offered : Bytes) (h : Host) : List Call :=
  if c.isOpen then [.write offered (h.write offered).1] else []

structure Course where
  data : Bytes
  taken : Nat := 0
  stage : Stage := .writing
  calls : List Call := []

namespace Course

def next (t : Course) : Course :=
  if t.taken < t.data.length then { t with stage := .writing }
  else { t with stage := .returned t.taken }

def begin (data : Bytes) : Course := next { data }

/-- Offers the host what is left; if it takes nothing, watches for room. -/
def write (c : Channel) (t : Course) (h : Host) : Course × Host :=
  let offered := t.data.drop t.taken
  let calls := t.calls ++ asked c offered h
  match c.write offered h with
  | (.error fault, h) => ({ t with stage := .failed fault, calls }, h)
  | (.ok 0, h) => ({ t with stage := .waiting, calls := calls ++ [.watch] }, h)
  | (.ok (n + 1), h) => (next { t with taken := t.taken + (n + 1), calls }, h)

/-- The end of a wait; however it ends, the terminal is watched no longer. -/
def wake (ending : Ending) (t : Course) : Course :=
  let calls := t.calls ++ [.wait ending, .unwatch]
  match ending with
  | .room => next { t with calls }
  | .late => { t with stage := .returned t.taken, calls }
  | .cancelled => { t with stage := .cancelled, calls }

def turn (c : Channel) : Course × Host → Turn → Course × Host
  | (t, h), .meanwhile host => (t, { host with sent := h.sent })
  | (t, h), .write => if t.stage = .writing then t.write c h else (t, h)
  | (t, h), .wait ending =>
      if t.stage = .waiting then (t.wake ending, h) else (t, h)

def run (c : Channel) (turns : List Turn) (t : Course) (h : Host) :
    Course × Host :=
  turns.foldl (turn c) (t, h)

end Course

/-! What calls come to. -/

/-- The bytes that were taken in a call. -/
def Call.bytes : Call → Bytes
  | .write offered (.ok n) => offered.take n
  | _ => []

def bytesIn (calls : List Call) : Bytes := calls.flatMap Call.bytes

def Call.watches (before : Bool) : Call → Bool
  | .watch => true
  | .unwatch => false
  | _ => before

def watched (calls : List Call) : Bool := calls.foldl Call.watches false

/-- A call that the transfer goes on after. -/
def Call.Passes : Call → Prop
  | .write _ (.error cause) => cause.isWouldBlock = true
  | .wait ending => ending = .room
  | _ => True

def Going (calls : List Call) : Prop := ∀ call ∈ calls, call.Passes

/-- Every write offers what those before it have left of some data. -/
def Offers (data : Bytes) (calls : List Call) : Prop :=
  ∀ before offered answer after, calls = before ++ .write offered answer :: after →
    bytesIn before ++ offered = data

variable {c : Channel} {data offered : Bytes} {h h₀ : Host} {t : Course}
  {calls more : List Call} {call : Call}

theorem bytesIn_append (calls more : List Call) :
    bytesIn (calls ++ more) = bytesIn calls ++ bytesIn more :=
  List.flatMap_append

theorem watched_append (calls more : List Call) :
    watched (calls ++ more) = more.foldl Call.watches (watched calls) :=
  List.foldl_append

theorem Going.append (going : Going calls) (further : Going more) :
    Going (calls ++ more) :=
  List.forall_mem_append.2 ⟨going, further⟩

theorem Going.concat (going : Going calls) (passes : call.Passes) :
    Going (calls ++ [call]) :=
  going.append (List.forall_mem_singleton.2 passes)

theorem Offers.concat (offers : Offers data calls)
    (new : ∀ offered answer, call = .write offered answer →
      bytesIn calls ++ offered = data) : Offers data (calls ++ [call]) := by
  intro before offered answer after split
  rcases List.eq_nil_or_concat after with rfl | ⟨rest, last, rfl⟩
  · obtain ⟨rfl, same⟩ := List.append_inj' split rfl
    exact new offered answer (List.singleton_inj.1 same)
  · rw [List.concat_eq_append, ← List.cons_append, ← List.append_assoc] at split
    exact offers before offered answer rest (List.append_inj' split rfl).1

inductive Wrote (c : Channel) (offered : Bytes) (h : Host) :
    List Call → Except ChannelFault Nat × Host → Prop
  | closed (closed : c.isOpen = false) : Wrote c offered h [] (.error .notOpen, h)
  | took {n : Nat} {h' : Host} (few : n ≤ offered.length)
      (takes : h.Takes (offered.take n) h') :
      Wrote c offered h [.write offered (.ok n)] (.ok n, h')
  | full {cause : HostFault} {h' : Host} (blocked : cause.isWouldBlock = true)
      (takes : h.Takes [] h') :
      Wrote c offered h [.write offered (.error cause)] (.ok 0, h')
  | failed {cause : HostFault} {h' : Host} (fault : cause.isWouldBlock = false)
      (takes : h.Takes [] h') :
      Wrote c offered h [.write offered (.error cause)]
        (.error (.cannotWrite cause), h')

theorem wrote (c : Channel) (offered : Bytes) (h : Host) :
    Wrote c offered h (asked c offered h) (c.write offered h) := by
  have takes := h.write_takes offered
  rw [asked, Channel.write]
  cases c_open : c.isOpen with
  | false => exact .closed c_open
  | true =>
      rw [if_pos rfl, if_pos rfl]
      cases written : h.write offered with
      | mk answer h' =>
          rw [written] at takes
          cases answer with
          | ok n => exact .took (Host.write_le written) takes
          | error cause =>
              dsimp only
              cases blocked : cause.isWouldBlock with
              | true => exact .full blocked takes
              | false => exact .failed blocked takes

/-- How the calls of a transfer have brought it where it is. -/
inductive Follows (c : Channel) (size taken : Nat) : List Call → Stage → Prop
  | writing {calls : List Call} (going : Going calls)
      (off : watched calls = false) (left : taken < size) :
      Follows c size taken calls .writing
  | waiting {calls : List Call} (going : Going calls)
      (on : watched calls = true) (left : taken < size) :
      Follows c size taken calls .waiting
  | whole {calls : List Call} (going : Going calls)
      (off : watched calls = false) (all : taken = size) :
      Follows c size taken calls (.returned taken)
  | late {calls : List Call} (going : Going calls) (left : taken < size) :
      Follows c size taken (calls ++ [.wait .late, .unwatch]) (.returned taken)
  | cancelled {calls : List Call} (going : Going calls) (left : taken < size) :
      Follows c size taken (calls ++ [.wait .cancelled, .unwatch]) .cancelled
  | failed {calls : List Call} {offered : Bytes} {cause : HostFault}
      (going : Going calls) (off : watched calls = false) (left : taken < size)
      (fault : cause.isWouldBlock = false) :
      Follows c size taken (calls ++ [.write offered (.error cause)])
        (.failed (.cannotWrite cause))
  | closed {calls : List Call} (going : Going calls)
      (off : watched calls = false) (left : taken < size)
      (closed : c.isOpen = false) : Follows c size taken calls (.failed .notOpen)

namespace Follows

variable {size taken : Nat}

theorem of_writing (follows : Follows c size taken calls .writing) :
    Going calls ∧ watched calls = false ∧ taken < size := by
  cases follows with
  | writing going off left => exact ⟨going, off, left⟩

theorem of_waiting (follows : Follows c size taken calls .waiting) :
    Going calls ∧ taken < size := by
  cases follows with
  | waiting going _ left => exact ⟨going, left⟩

theorem watched_iff {stage : Stage} (follows : Follows c size taken calls stage) :
    watched calls = true ↔ stage = .waiting := by
  cases follows with
  | writing _ off => simp [off]
  | waiting _ on => simp [on]
  | whole _ off => simp [off]
  | late => simp [watched_append, Call.watches]
  | cancelled => simp [watched_append, Call.watches]
  | failed _ off => simp [watched_append, Call.watches, off]
  | closed _ off => simp [off]

theorem within {stage : Stage} (follows : Follows c size taken calls stage) :
    taken ≤ size := by
  cases follows with
  | whole _ _ all => exact Nat.le_of_eq all
  | late _ left => exact Nat.le_of_lt left
  | writing _ _ left => exact Nat.le_of_lt left
  | waiting _ _ left => exact Nat.le_of_lt left
  | cancelled _ left => exact Nat.le_of_lt left
  | failed _ _ left => exact Nat.le_of_lt left
  | closed _ _ left => exact Nat.le_of_lt left

theorem eq_of_returned {n : Nat}
    (follows : Follows c size taken calls (.returned n)) : n = taken := by
  cases follows <;> rfl

theorem whole_iff {stage : Stage} (follows : Follows c size taken calls stage) :
    taken = size ↔ stage = .returned size := by
  cases follows with
  | whole _ _ all => simp [all]
  | late _ left => simp [Nat.ne_of_lt left]
  | writing _ _ left => simp [Nat.ne_of_lt left]
  | waiting _ _ left => simp [Nat.ne_of_lt left]
  | cancelled _ left => simp [Nat.ne_of_lt left]
  | failed _ _ left => simp [Nat.ne_of_lt left]
  | closed _ _ left => simp [Nat.ne_of_lt left]

theorem late_iff {stage : Stage} (follows : Follows c size taken calls stage) :
    .wait .late ∈ calls ↔ ∃ n < size, stage = .returned n := by
  have never : ∀ {calls}, Going calls → Call.wait .late ∉ calls :=
    fun going member => nomatch going _ member
  cases follows with
  | whole going _ all => simp [never going, all]
  | late _ left => simp [left]
  | writing going => simp [never going]
  | waiting going => simp [never going]
  | cancelled going => simp [never going]
  | failed going => simp [never going]
  | closed going => simp [never going]

theorem cancelled_iff {stage : Stage} (follows : Follows c size taken calls stage) :
    .wait .cancelled ∈ calls ↔ stage = .cancelled := by
  have never : ∀ {calls}, Going calls → Call.wait .cancelled ∉ calls :=
    fun going member => nomatch going _ member
  cases follows with
  | whole going => simp [never going]
  | late going => simp [never going]
  | writing going => simp [never going]
  | waiting going => simp [never going]
  | cancelled => simp
  | failed going => simp [never going]
  | closed going => simp [never going]

theorem failed_of_mem {stage : Stage} {cause : HostFault}
    (follows : Follows c size taken calls stage)
    (member : .write offered (.error cause) ∈ calls)
    (fault : cause.isWouldBlock = false) : stage = .failed (.cannotWrite cause) := by
  have never : ∀ {calls}, Going calls → Call.write offered (.error cause) ∉ calls := by
    intro calls going member
    have passes : cause.isWouldBlock = true := going _ member
    rw [fault] at passes
    cases passes
  cases follows with
  | whole going => exact absurd member (never going)
  | writing going => exact absurd member (never going)
  | waiting going => exact absurd member (never going)
  | closed going => exact absurd member (never going)
  | late going => simp [never going] at member
  | cancelled going => simp [never going] at member
  | failed going =>
      rcases List.mem_append.1 member with before | last
      · exact absurd before (never going)
      · cases List.mem_singleton.1 last
        rfl

theorem exists_of_failed {fault : ChannelFault}
    (follows : Follows c size taken calls (.failed fault)) :
    c.isOpen = false ∧ fault = .notOpen ∨ ∃ offered cause,
      cause.isWouldBlock = false ∧ fault = .cannotWrite cause ∧
        .write offered (.error cause) ∈ calls := by
  cases follows with
  | failed _ _ _ fault => exact .inr ⟨_, _, fault, rfl, List.mem_concat_self⟩
  | closed _ _ _ closed => exact .inl ⟨closed, rfl⟩

end Follows

/-- The account of a transfer that began on one state of a host and has come to
another. -/
structure Course.Sound (c : Channel) (h₀ : Host) (t : Course) (h : Host) :
    Prop where
  sent : ∃ writes, h.sent = h₀.sent ++ writes ∧ Host.said writes = bytesIn t.calls
  counted : bytesIn t.calls = t.data.take t.taken
  offers : Offers t.data t.calls
  follows : Follows c t.data.length t.taken t.calls t.stage

namespace Course

theorem data_next (t : Course) : t.next.data = t.data := by
  rw [next]
  split <;> rfl

theorem calls_next (t : Course) : t.next.calls = t.calls := by
  rw [next]
  split <;> rfl

theorem taken_next (t : Course) : t.next.taken = t.taken := by
  rw [next]
  split <;> rfl

theorem follows_next (going : Going t.calls) (off : watched t.calls = false)
    (within : t.taken ≤ t.data.length) :
    Follows c t.data.length t.taken t.calls t.next.stage := by
  rw [next]
  split
  · next left => exact .writing going off left
  · next none => exact .whole going off (Nat.le_antisymm within (Nat.not_lt.1 none))

theorem sound_next
    (sent : ∃ writes, h.sent = h₀.sent ++ writes ∧
      Host.said writes = bytesIn t.calls)
    (counted : bytesIn t.calls = t.data.take t.taken)
    (offers : Offers t.data t.calls) (going : Going t.calls)
    (off : watched t.calls = false) (within : t.taken ≤ t.data.length) :
    t.next.Sound c h₀ h where
  sent := by rwa [calls_next]
  counted := by rwa [calls_next, data_next, taken_next]
  offers := by rwa [calls_next, data_next]
  follows := by
    rw [calls_next, data_next, taken_next]
    exact follows_next going off within

theorem sound_watching
    (sent : ∃ writes, h.sent = h₀.sent ++ writes ∧
      Host.said writes = bytesIn calls)
    (counted : bytesIn calls = t.data.take t.taken) (offers : Offers t.data calls)
    (going : Going calls) (left : t.taken < t.data.length) :
    ({ t with stage := .waiting, calls := calls ++ [.watch] } : Course).Sound c h₀ h where
  sent := by
    obtain ⟨writes, sent, said⟩ := sent
    refine ⟨writes, sent, ?_⟩
    rw [bytesIn_append, said]
    exact (List.append_nil _).symm
  counted := by
    rw [bytesIn_append, counted]
    exact List.append_nil _
  offers := offers.concat fun _ _ => nofun
  follows := .waiting (going.concat trivial) (watched_append ..) left

theorem sound_begin (c : Channel) (data : Bytes) (h : Host) :
    (begin data).Sound c h h :=
  sound_next ⟨[], (List.append_nil _).symm, rfl⟩ rfl
    (fun before _ _ _ split => absurd split (by cases before <;> nofun)) nofun
    rfl (Nat.zero_le _)

namespace Sound

theorem write (sound : t.Sound c h₀ h) (writing : t.stage = .writing) :
    (t.write c h).1.Sound c h₀ (t.write c h).2 := by
  obtain ⟨⟨writes, sent, said⟩, counted, offers, follows⟩ := sound
  rw [writing] at follows
  obtain ⟨going, off, left⟩ := follows.of_writing
  -- the call of a write, what it is answered and what it brings
  have offered : ∀ answer,
      Offers t.data (t.calls ++ [.write (t.data.drop t.taken) answer]) := by
    intro answer
    refine offers.concat fun _ _ same => ?_
    cases same
    rw [counted, List.take_append_drop]
  have brought : ∀ {answer taken h'}, h.Takes taken h' →
      (Call.write (t.data.drop t.taken) answer).bytes = taken →
      ∃ writes, h'.sent = h₀.sent ++ writes ∧ Host.said writes =
        bytesIn (t.calls ++ [.write (t.data.drop t.taken) answer]) := by
    intro answer taken h' takes same
    obtain ⟨new, more, rfl⟩ := takes.sent
    refine ⟨writes ++ new, ?_, ?_⟩
    · rw [more, sent, List.append_assoc]
    · rw [Host.said_append, said, bytesIn_append, ← same]
      exact congrArg _ (List.append_nil _).symm
  have unchanged : ∀ cause,
      bytesIn (t.calls ++ [.write (t.data.drop t.taken) (.error cause)]) =
        t.data.take t.taken :=
    fun cause => (bytesIn_append ..).trans ((List.append_nil _).trans counted)
  have result := wrote c (t.data.drop t.taken) h
  rw [Course.write]
  generalize asked c (t.data.drop t.taken) h = asked at result
  generalize c.write (t.data.drop t.taken) h = answered at result
  cases result with
  | closed closed =>
      rw [List.append_nil]
      exact ⟨⟨writes, sent, said⟩, counted, offers, .closed going off left closed⟩
  | failed fault takes =>
      exact ⟨brought takes rfl, unchanged _, offered _, .failed going off left fault⟩
  | full blocked takes =>
      exact sound_watching (brought takes rfl) (unchanged _) (offered _) (going.concat blocked) left
  | @took n h' few takes =>
      have more : bytesIn (t.calls ++ [.write (t.data.drop t.taken) (.ok n)]) =
          t.data.take (t.taken + n) := by
        rw [bytesIn_append, counted, List.take_add]
        exact congrArg _ (List.append_nil _)
      have passed : Going (t.calls ++ [.write (t.data.drop t.taken) (.ok n)]) :=
        going.concat trivial
      have within : t.taken + n ≤ t.data.length := by
        rw [List.length_drop] at few
        omega
      cases n with
      | zero => exact sound_watching (brought takes rfl) more (offered _) passed left
      | succ n =>
          refine sound_next (brought takes rfl) more (offered _) passed ?_ within
          exact (watched_append ..).trans off

theorem wake (sound : t.Sound c h₀ h) (waiting : t.stage = .waiting) (ending : Ending) :
    (t.wake ending).Sound c h₀ h := by
  obtain ⟨sent, counted, offers, follows⟩ := sound
  rw [waiting] at follows
  obtain ⟨going, left⟩ := follows.of_waiting
  have ended : bytesIn (t.calls ++ [.wait ending, .unwatch]) = bytesIn t.calls :=
    (bytesIn_append ..).trans (List.append_nil _)
  have waited : Offers t.data (t.calls ++ [.wait ending]) :=
    offers.concat fun _ _ => nofun
  have offers : Offers t.data (t.calls ++ [.wait ending, .unwatch]) := by
    rw [List.append_cons]
    exact waited.concat fun _ _ => nofun
  rw [← ended] at sent counted
  cases ending with
  | room =>
      refine sound_next sent counted offers ?_ (watched_append ..) (Nat.le_of_lt left)
      exact going.append (List.forall_mem_cons.2 ⟨rfl, List.forall_mem_singleton.2 trivial⟩)
  | late => exact ⟨sent, counted, offers, .late going left⟩
  | cancelled => exact ⟨sent, counted, offers, .cancelled going left⟩

theorem turn (sound : t.Sound c h₀ h) (turn : Turn) :
    (Course.turn c (t, h) turn).1.Sound c h₀ (Course.turn c (t, h) turn).2 := by
  cases turn with
  | meanwhile host => exact { sound with }
  | write =>
      rw [Course.turn]
      split
      · next writing => exact sound.write writing
      · exact sound
  | wait ending =>
      rw [Course.turn]
      split
      · next waiting => exact sound.wake waiting ending
      · exact sound

theorem run (sound : t.Sound c h₀ h) (turns : List Turn) :
    (Course.run c turns t h).1.Sound c h₀ (Course.run c turns t h).2 := by
  induction turns generalizing t h with
  | nil => exact sound
  | cons turn rest ih => exact ih (sound.turn turn)

end Sound

theorem data_turn (c : Channel) (turn : Turn) (t : Course) (h : Host) :
    (Course.turn c (t, h) turn).1.data = t.data := by
  cases turn with
  | meanwhile host => rfl
  | write =>
      rw [Course.turn]
      split
      · rw [Course.write]
        split
        · rfl
        · rfl
        · exact data_next _
      · rfl
  | wait ending =>
      rw [Course.turn]
      split
      · cases ending with
        | room => exact data_next _
        | late => rfl
        | cancelled => rfl
      · rfl

theorem data_run (c : Channel) (turns : List Turn) (t : Course) (h : Host) :
    (Course.run c turns t h).1.data = t.data := by
  induction turns generalizing t h with
  | nil => rfl
  | cons turn rest ih => exact (ih _ _).trans (data_turn c turn t h)

/-! The library's own transfers: between their calls the host changes only while
they wait. -/

theorem run_append (c : Channel) (turns more : List Turn) (t : Course) (h : Host) :
    run c (turns ++ more) t h =
      run c more (run c turns t h).1 (run c turns t h).2 :=
  List.foldl_append

def Leads (c : Channel) (t : Course) (h : Host) (t' : Course) (h' : Host) : Prop :=
  ∃ turns, run c turns t h = (t', h')

theorem Leads.refl (c : Channel) (t : Course) (h : Host) : Leads c t h t h :=
  ⟨[], rfl⟩

theorem Leads.trans {t' t'' : Course} {h' h'' : Host} (first : Leads c t h t' h')
    (second : Leads c t' h' t'' h'') : Leads c t h t'' h'' := by
  obtain ⟨turns, first⟩ := first
  obtain ⟨more, second⟩ := second
  exact ⟨turns ++ more, by rw [run_append, first, second]⟩

theorem leads_write {t' : Course} {h' : Host} (writing : t.stage = .writing)
    (step : t.write c h = (t', h')) : Leads c t h t' h' :=
  ⟨[.write], (if_pos writing).trans step⟩

theorem leads_wake (waiting : t.stage = .waiting) (ending : Ending) :
    Leads c t h (t.wake ending) h :=
  ⟨[.wait ending], if_pos waiting⟩

theorem leads_host {h' : Host} (quiet : h'.sent = h.sent) : Leads c t h t h' := by
  refine ⟨[.meanwhile h'], ?_⟩
  change (t, { h' with sent := h.sent }) = _
  rw [← quiet]

def Reaches (t : Course) : Progress → Prop
  | .ended taken => t.stage = .returned taken
  | .failed fault => t.stage = .failed fault
  | .waiting w => t.stage = .waiting ∧ t.taken ≤ t.data.length ∧
      w.size = t.data.length ∧ w.rest = t.data.drop t.taken

theorem write_of_error {fault : ChannelFault} {h' : Host}
    (written : c.write (t.data.drop t.taken) h = (.error fault, h')) :
    t.write c h = ({ t with
      stage := .failed fault
      calls := t.calls ++ asked c (t.data.drop t.taken) h }, h') := by
  rw [Course.write, written]

theorem write_of_zero {h' : Host}
    (written : c.write (t.data.drop t.taken) h = (.ok 0, h')) :
    t.write c h = ({ t with
      stage := .waiting
      calls := t.calls ++ asked c (t.data.drop t.taken) h ++ [.watch] }, h') := by
  rw [Course.write, written]

theorem write_of_succ {n : Nat} {h' : Host}
    (written : c.write (t.data.drop t.taken) h = (.ok (n + 1), h')) :
    t.write c h = (next { t with
      taken := t.taken + (n + 1)
      calls := t.calls ++ asked c (t.data.drop t.taken) h }, h') := by
  rw [Course.write, written]

theorem reaches_push (c : Channel) {rest : Bytes} (h : Host)
    (within : t.taken ≤ t.data.length) (left : rest = t.data.drop t.taken) :
    ∃ t', Leads c t.next h t' (c.push rest h).2 ∧ t'.data = t.data ∧
      match (c.push rest h).1 with
      | .done => t'.stage = .returned t.data.length
      | .failed fault => t'.stage = .failed fault
      | .full rest => t'.stage = .waiting ∧ t'.taken ≤ t'.data.length ∧
          rest = t'.data.drop t'.taken := by
  fun_induction Channel.push c rest h generalizing t with
  | case1 h =>
      have whole : t.taken = t.data.length :=
        Nat.le_antisymm within (List.drop_eq_nil_iff.1 left.symm)
      refine ⟨t.next, .refl .., data_next t, ?_⟩
      rw [next, if_neg (by omega), whole]
  | case2 rest h given fault h' written =>
      subst left
      rw [next, if_pos (by simpa using given)]
      have step := write_of_error (t := { t with stage := .writing }) written
      exact ⟨_, leads_write rfl step, rfl, rfl⟩
  | case3 rest h given h' written =>
      subst left
      rw [next, if_pos (by simpa using given)]
      have step := write_of_zero (t := { t with stage := .writing }) written
      exact ⟨_, leads_write rfl step, rfl, rfl, within, rfl⟩
  | case4 rest h given n h' written ih =>
      subst left
      have few : n + 1 ≤ (t.data.drop t.taken).length := by
        have result := wrote c (t.data.drop t.taken) h
        rw [written] at result
        generalize asked c (t.data.drop t.taken) h = calls at result
        cases result with
        | took few => exact few
      rw [List.length_drop] at few
      have step := write_of_succ (t := { t with stage := .writing }) written
      obtain ⟨t', leads, same, reached⟩ := ih
        (t := { t with
          stage := .writing
          taken := t.taken + (n + 1)
          calls := t.calls ++ asked c (t.data.drop t.taken) h })
        (by dsimp only; omega) (List.drop_drop ..)
      rw [next, if_pos (by simpa using given)]
      exact ⟨t', .trans (leads_write rfl step) leads, same, reached⟩

/-- A transfer goes on as the one call by call does, from the same place. -/
theorem reaches_go (c : Channel) (patience : Option Nat) (h : Host)
    (within : t.taken ≤ t.data.length) :
    ∃ t', Leads c t.next h t' (go c t.data.length patience (t.data.drop t.taken) h).2 ∧
      t'.data = t.data ∧
      t'.Reaches (go c t.data.length patience (t.data.drop t.taken) h).1 := by
  obtain ⟨t', leads, same, reached⟩ := reaches_push c h within rfl
  rw [go]
  generalize c.push (t.data.drop t.taken) h = pushed at leads reached
  obtain ⟨push, h'⟩ := pushed
  cases push with
  | done => exact ⟨t', leads, same, reached⟩
  | failed fault => exact ⟨t', leads, same, reached⟩
  | full rest =>
      obtain ⟨waiting, within', rfl⟩ := reached
      dsimp only
      split
      · -- who has no patience begins to wait all the same
        refine ⟨t'.wake .late, leads.trans (leads_wake waiting .late), same, ?_⟩
        rw [Reaches, List.length_drop, ← same, Nat.sub_sub_self within']
        rfl
      · exact ⟨t', leads, same, waiting, within', congrArg _ same.symm, rfl⟩

theorem reaches_start (c : Channel) (data : Bytes) (patience : Option Nat) (h : Host) :
    ∃ t, Leads c (begin data) h t (start c data patience h).2 ∧
      t.Reaches (start c data patience h).1 := by
  obtain ⟨t, leads, _, reached⟩ :=
    reaches_go c patience h (t := { data }) (Nat.zero_le _)
  exact ⟨t, leads, reached⟩

theorem late_of_reaches {w : Transfer} (reached : t.Reaches (.waiting w)) :
    (t.wake .late).stage = .returned w.taken := by
  obtain ⟨_, within, size, rest⟩ := reached
  rw [Transfer.taken, size, rest, List.length_drop, Nat.sub_sub_self within]
  rfl

theorem Reaches.wake {p : Progress} (reached : t.Reaches p) (c : Channel) (h : Host) :
    ∃ t', Leads c t h t' (p.wake c h).2 ∧ t'.Reaches (p.wake c h).1 := by
  cases p with
  | ended taken => exact ⟨t, .refl .., reached⟩
  | failed fault => exact ⟨t, .refl .., reached⟩
  | waiting w =>
      obtain ⟨waiting, within, size, rest⟩ := reached
      obtain ⟨t', leads, _, reached⟩ := reaches_go c w.patience h
        (t := { t with calls := t.calls ++ [.wait .room, .unwatch] }) within
      rw [Progress.wake, Transfer.wake, size, rest]
      exact ⟨t', (leads_wake waiting .room).trans leads, reached⟩

theorem Reaches.advance {p : Progress} (reached : t.Reaches p) (c : Channel)
    (span : Nat) (h : Host) :
    ∃ t', Leads c t h t' (p.advance span h).2 ∧ t'.Reaches (p.advance span h).1 := by
  have passed : Leads c t h t (h.meet (.advance span)) := leads_host rfl
  cases p with
  | ended taken => exact ⟨t, passed, reached⟩
  | failed fault => exact ⟨t, passed, reached⟩
  | waiting w =>
      rw [Progress.advance]
      split
      · exact ⟨_, passed.trans (leads_wake reached.1 .late), late_of_reaches reached⟩
      · exact ⟨t, passed, reached⟩

def Ends (t : Course) : Except ChannelFault Nat → Prop
  | .ok taken => t.stage = .returned taken
  | .error fault => t.stage = .failed fault

theorem Reaches.finish {p : Progress} (reached : t.Reaches p) (c : Channel) (h : Host) :
    ∃ t', Leads c t h t' (p.finish h).2 ∧ t'.Ends (p.finish h).1 := by
  cases p with
  | ended taken => exact ⟨t, .refl .., reached⟩
  | failed fault => exact ⟨t, .refl .., reached⟩
  | waiting w =>
      have passed : Leads c t h t ((Progress.waiting w).finish h).2 := leads_host rfl
      exact ⟨_, passed.trans (leads_wake reached.1 .late), late_of_reaches reached⟩

theorem Reaches.during {p : Progress} (reached : t.Reaches p) (c : Channel)
    (rounds : List (Nat × Nat)) (h : Host) :
    ∃ t', Leads c t h t' (p.during c rounds h).2 ∧ t'.Ends (p.during c rounds h).1 := by
  induction rounds generalizing t p h with
  | nil => exact reached.finish c h
  | cons round rounds ih =>
      obtain ⟨span, room⟩ := round
      obtain ⟨t₁, passed, reached⟩ := reached.advance c span h
      obtain ⟨t₂, woken, reached⟩ :=
        reached.wake c ((p.advance span h).2.meet (.drain room))
      obtain ⟨t₃, later, ends⟩ := ih reached _
      have drained := leads_host (c := c) (t := t₁)
        (Host.sent_meet (.drain room) (p.advance span h).2)
      exact ⟨t₃, ((passed.trans drained).trans woken).trans later, ends⟩

/-- Whatever the host answers to a transfer and however its waits end, the
terminal has at every moment taken the beginning of the data, and each write
offers all that is left. A transfer that returns tells how much was taken, which
is all unless a wait was too long; it fails where a write does, but not where the
terminal is full; and the terminal is watched in a wait only. What the library
makes of a transfer is among this. -/
theorem accounted (c : Channel) (data : Bytes) (h : Host) :
    (∀ turns : List Turn,
      let t := (run c turns (begin data) h).1
      let h' := (run c turns (begin data) h).2
      (∃ writes left, h'.sent = h.sent ++ writes ∧ Host.said writes ++ left = data ∧
        (∀ taken, t.stage = .returned taken → taken = (Host.said writes).length) ∧
        (left = [] ↔ t.stage = .returned data.length)) ∧
      (∀ before offered answer after,
        t.calls = before ++ .write offered answer :: after →
          bytesIn before ++ offered = data) ∧
      (.wait .late ∈ t.calls ↔ ∃ taken < data.length, t.stage = .returned taken) ∧
      (.wait .cancelled ∈ t.calls ↔ t.stage = .cancelled) ∧
      (∀ offered cause, .write offered (.error cause) ∈ t.calls →
        cause.isWouldBlock = false → t.stage = .failed (.cannotWrite cause)) ∧
      (∀ fault, t.stage = .failed fault →
        c.isOpen = false ∧ fault = .notOpen ∨ ∃ offered cause,
          cause.isWouldBlock = false ∧ fault = .cannotWrite cause ∧
            .write offered (.error cause) ∈ t.calls) ∧
      (watched t.calls = true ↔ t.stage = .waiting)) ∧
    ∀ (patience : Option Nat) (rounds : List (Nat × Nat)),
      let begun := start c data patience h
      let done := begun.1.during c rounds begun.2
      ∃ turns t, run c turns (begin data) h = (t, done.2) ∧ t.Ends done.1 := by
  refine ⟨fun turns => ?_, fun patience rounds => ?_⟩
  · have sound := (sound_begin c data h).run turns
    have same := (data_run c turns (begin data) h).trans (data_next { data })
    generalize run c turns (begin data) h = reached at sound same
    obtain ⟨t, h'⟩ := reached
    obtain ⟨⟨writes, sent, said⟩, counted, offers, follows⟩ := sound
    dsimp only at same sent said counted offers follows ⊢
    rw [same] at counted offers follows
    refine ⟨⟨writes, data.drop t.taken, sent, ?_, fun taken returned => ?_, ?_⟩, offers,
      follows.late_iff, follows.cancelled_iff,
      fun offered cause member fault => follows.failed_of_mem member fault,
      fun fault failed => ?_, follows.watched_iff⟩
    · rw [said, counted, List.take_append_drop]
    · rw [returned] at follows
      rw [said, counted, List.length_take, follows.eq_of_returned]
      exact (Nat.min_eq_left follows.within).symm
    · rw [← follows.whole_iff, List.drop_eq_nil_iff]
      exact ⟨Nat.le_antisymm follows.within, Nat.le_of_eq ∘ Eq.symm⟩
    · rw [failed] at follows
      exact follows.exists_of_failed
  · obtain ⟨t, started, reached⟩ := reaches_start c data patience h
    obtain ⟨t', later, ends⟩ := reached.during c rounds (start c data patience h).2
    obtain ⟨turns, ran⟩ := started.trans later
    exact ⟨turns, t', ran, ends⟩

def plain : Channel := { near := some ⟨0, true⟩, far := some ⟨0, false⟩ }

/-- Two short writes, one that finds no room, a wait that ends with room, and a
write that fails. -/
def ragged : List Turn :=
  [.write, .meanwhile { room := some 1 }, .write, .write, .wait .room,
    .meanwhile { faults := [(.write, .noClient)] }, .write]

def raggedCalls : List Call :=
  [.write [1, 2, 3, 4, 5] (.ok 2), .write [3, 4, 5] (.ok 1),
    .write [4, 5] (.error .wouldBlock), .watch, .wait .room, .unwatch,
    .write [4, 5] (.error .noClient)]

theorem ragged_accounted :
    let t := (run plain ragged (begin [1, 2, 3, 4, 5]) { room := some 2 }).1
    t.calls = raggedCalls ∧ t.stage = .failed (.cannotWrite .noClient) ∧
      watched t.calls = false ∧ .wait .late ∉ t.calls := by
  intro t
  obtain ⟨accounts, _⟩ := accounted plain [1, 2, 3, 4, 5] { room := some 2 }
  obtain ⟨_, _, late, _, failed, _, watches⟩ := accounts ragged
  have last : .write [4, 5] (.error .noClient) ∈ raggedCalls := by
    simp [raggedCalls]
  have stage : t.stage = .failed (.cannotWrite .noClient) := failed _ _ last rfl
  refine ⟨rfl, stage, ?_, fun member => ?_⟩
  · rw [← Bool.not_eq_true, watches, stage]
    exact Stage.noConfusion
  · obtain ⟨taken, _, returned⟩ := late.1 member
    rw [stage] at returned
    cases returned

end Course

end Transfer

end Breadboard
