import Breadboard.Proofs.Serial.Lines

/-! The search for a device. A port answers its probe or fails it by what it does when
it is opened, reset, written, read and closed; the search asks the ports one after
another up to the first that answers, and reports what failed on its way. -/

namespace Breadboard

namespace SerialPort

/-- What goes wrong with a command to an open port. A read only fails if no read before
it found nothing. -/
def talkFault? (p : SerialPort) : Option Text :=
  p.resetFault <|> p.writeFault <|> if [] ∈ p.replies then none else p.readFault

/-- What a probe of the port reports. A fault in closing is reported in place of one in
talking. -/
def fault? (p : SerialPort) : Option SerialFault :=
  p.openFault.map (.cannotOpen p.name) <|> p.closeFault.map (.cannotClose p.name) <|>
    p.talkFault?.map (.cannotTalk p.name)

def reply (p : SerialPort) : Bytes := (p.replies.takeWhile (· ≠ [])).flatten

def version? (p : SerialPort) : Option Text :=
  Firmware.version? (Utf8.decodeReplacing p.reply)

theorem drain_flatten (replies : List Bytes) :
    (drain replies).1.flatten = (replies.takeWhile (· ≠ [])).flatten := by
  fun_induction drain replies with
  | case1 => rfl
  | case2 rest => rfl
  | case3 reply rest some found left drained ih =>
      rw [drained] at ih
      rw [List.flatten_append, segments_flatten, ih,
        List.takeWhile_cons_of_pos (by simpa using some), List.flatten_cons]

theorem drain_eq_none (replies : List Bytes) :
    (drain replies).2 = none ↔ [] ∉ replies := by
  fun_induction drain replies with
  | case1 => simp
  | case2 rest => simp
  | case3 reply rest some found left drained ih =>
      rw [drained] at ih
      simp [ih, Ne.symm some]

end SerialPort

namespace SerialCall

def tried? : SerialCall → Option Text
  | .opening port _ _ => some port
  | _ => none

def opened? : SerialCall → Option SerialLine
  | .opening _ _ got => got
  | _ => none

def closed? : SerialCall → Option SerialLine
  | .close line => some line
  | _ => none

end SerialCall

namespace SerialBus

variable {bus bus' bus'' : SerialBus} {p : SerialPort}

theorem find?_setReplies (name other : Text) (replies : List Bytes) (bus : SerialBus) :
    (bus.setReplies name replies).find? other =
      (bus.find? other).map fun p => if p.name = name then { p with replies } else p := by
  rw [find?, setReplies, List.find?_map]
  congr 2
  funext p
  simp only [Function.comp_apply]
  split <;> rfl

theorem name_of_find? {name : Text} (there : bus.find? name = some p) : p.name = name := by
  simpa using List.find?_some there

structure Quiet (calls : List SerialCall) : Prop where
  tried : calls.filterMap SerialCall.tried? = []
  opened : calls.filterMap SerialCall.opened? = []
  closed : calls.filterMap SerialCall.closed? = []

theorem Quiet.append {calls others : List SerialCall} (quiet : Quiet calls)
    (quiet' : Quiet others) : Quiet (calls ++ others) where
  tried := by rw [List.filterMap_append, quiet.tried, quiet'.tried, List.nil_append]
  opened := by rw [List.filterMap_append, quiet.opened, quiet'.opened, List.nil_append]
  closed := by rw [List.filterMap_append, quiet.closed, quiet'.closed, List.nil_append]

theorem quiet_reads (line : SerialLine) (found : List Bytes) :
    Quiet (found.map (.read line ·.length)) := by
  induction found with
  | nil => exact ⟨rfl, rfl, rfl⟩
  | cons reply found ih =>
      have one : Quiet [.read line reply.length] := ⟨rfl, rfl, rfl⟩
      exact one.append ih

/-- From one state of the ports to another a line has been talked on; its port may have
other replies left. -/
structure Talked (bus : SerialBus) (port : Text) (bus' : SerialBus) : Prop where
  opened : bus'.opened = bus.opened
  calls : ∃ made, bus'.calls = bus.calls ++ made ∧ Quiet made
  same : ∀ name, name ≠ port → bus'.find? name = bus.find? name
  there : ∀ p, bus.find? port = some p → ∃ replies, bus'.find? port = some { p with replies }

theorem talked_record {port : Text} {made : List SerialCall} (quiet : Quiet made)
    (bus : SerialBus) : bus.Talked port (bus.record made) where
  opened := rfl
  calls := ⟨made, rfl, quiet⟩
  same _ _ := rfl
  there p there := ⟨p.replies, there⟩

theorem talked_read {port : Text} {made : List SerialCall} (quiet : Quiet made)
    (replies : List Bytes) (bus : SerialBus) :
    bus.Talked port ((bus.setReplies port replies).record made) where
  opened := rfl
  calls := ⟨made, rfl, quiet⟩
  same name other := by
    refine (find?_setReplies port name replies bus).trans ?_
    cases found : bus.find? name with
    | none => rfl
    | some p =>
        rw [Option.map_some, if_neg]
        rw [name_of_find? found]
        exact other
  there p found := by
    refine ⟨replies, (find?_setReplies port port replies bus).trans ?_⟩
    rw [found, Option.map_some, if_pos (name_of_find? found)]

theorem talk_eq {line : SerialLine} (there : bus.find? line.port = some p)
    (command : Bytes) (time : Wait) :
    ∃ bus', bus.Talked line.port bus' ∧ bus.talk line command time =
      (match p.talkFault? with
        | some cause => .error cause
        | none => .ok p.reply, bus') := by
  rw [talk, there, SerialPort.talkFault?]
  dsimp only
  cases reset : p.resetFault with
  | some cause => exact ⟨_, talked_record ⟨rfl, rfl, rfl⟩ bus, rfl⟩
  | none =>
      cases written : p.writeFault with
      | some cause => exact ⟨_, talked_record ⟨rfl, rfl, rfl⟩ bus, rfl⟩
      | none =>
          have read := SerialPort.drain_flatten p.replies
          have silent := SerialPort.drain_eq_none p.replies
          generalize SerialPort.drain p.replies = drained at read silent
          obtain ⟨found, left⟩ := drained
          have before : Quiet [.resetInput line, .resetOutput line, .write line command,
              .flush line, .patience line, .sleep time] := ⟨rfl, rfl, rfl⟩
          have last : Quiet [.read line 0] := ⟨rfl, rfl, rfl⟩
          refine ⟨_, talked_read ((before.append (quiet_reads line found)).append last)
            (left.getD []) bus, ?_⟩
          rw [SerialPort.reply, ← read]
          cases left with
          | none =>
              rw [if_neg (silent.1 rfl)]
              cases p.readFault <;> rfl
          | some rest =>
              have found : [] ∈ p.replies :=
                Decidable.not_not.1 fun missing => Option.some_ne_none _ (silent.2 missing)
              rw [if_pos found]
              cases p.readFault <;> rfl

/-- From one state of the ports to another some of them have been tried one after
another, and each line that was opened has been closed. -/
structure Visits (bus : SerialBus) (tried : List Text) (bus' : SerialBus) : Prop where
  calls : ∃ made lines, bus'.calls = bus.calls ++ made ∧
    made.filterMap SerialCall.tried? = tried ∧
    made.filterMap SerialCall.opened? = lines ∧ made.filterMap SerialCall.closed? = lines ∧
    lines.map (·.number) = List.range' bus.opened lines.length ∧
    bus'.opened = bus.opened + lines.length
  same : ∀ name, name ∉ tried → bus'.find? name = bus.find? name
  there : ∀ name, (bus.find? name).isSome = true → (bus'.find? name).isSome = true

theorem Visits.refl (bus : SerialBus) : bus.Visits [] bus where
  calls := ⟨[], [], (List.append_nil _).symm, rfl, rfl, rfl, rfl, rfl⟩
  same _ _ := rfl
  there _ := id

theorem Visits.trans {tried tried' : List Text} (visits : bus.Visits tried bus')
    (visits' : bus'.Visits tried' bus'') : bus.Visits (tried ++ tried') bus'' where
  calls := by
    obtain ⟨made, lines, calls, rfl, opened, closed, numbers, count⟩ := visits.calls
    obtain ⟨made', lines', calls', rfl, opened', closed', numbers', count'⟩ := visits'.calls
    refine ⟨made ++ made', lines ++ lines', ?_, List.filterMap_append, ?_, ?_, ?_, ?_⟩
    · rw [calls', calls, List.append_assoc]
    · rw [List.filterMap_append, opened, opened']
    · rw [List.filterMap_append, closed, closed']
    · rw [List.map_append, numbers, numbers', count, List.length_append, List.range'_append_1]
    · rw [count', count, List.length_append, Nat.add_assoc]
  same name untried := by
    simp only [List.mem_append, not_or] at untried
    rw [visits'.same name untried.2, visits.same name untried.1]
  there name there := visits'.there name (visits.there name there)

theorem Visits.nodup {tried : List Text} (visits : bus.Visits tried bus') :
    ∃ made, bus'.calls = bus.calls ++ made ∧ made.filterMap SerialCall.tried? = tried ∧
      made.filterMap SerialCall.closed? = made.filterMap SerialCall.opened? ∧
      (made.filterMap SerialCall.opened?).Nodup := by
  obtain ⟨made, lines, calls, tried, opened, closed, numbers, _⟩ := visits.calls
  refine ⟨made, calls, tried, closed.trans opened.symm, ?_⟩
  rw [opened]
  have distinct : (lines.map (·.number)).Nodup := numbers ▸ List.nodup_range'
  exact List.Pairwise.of_map _ (fun _ _ other same => other (congrArg _ same)) distinct

/-! A probe. -/

theorem visits_unopened (bus : SerialBus) (port : Text) (baudRate : Int) :
    bus.Visits [port] (bus.record [.opening port baudRate none]) where
  calls := ⟨_, [], rfl, rfl, rfl, rfl, rfl, rfl⟩
  same _ _ := rfl
  there _ := id

def given (port : Text) (baudRate : Int) (bus : SerialBus) : SerialBus :=
  { bus.record [.opening port baudRate (some ⟨port, bus.opened⟩)] with
    opened := bus.opened + 1 }

theorem visits_talked {port : Text} {baudRate : Int}
    (talked : (bus.given port baudRate).Talked port bus') :
    bus.Visits [port] (bus'.record [.close ⟨port, bus.opened⟩]) where
  calls := by
    obtain ⟨made, calls, quiet⟩ := talked.calls
    refine ⟨.opening port baudRate (some ⟨port, bus.opened⟩) ::
      (made ++ [.close ⟨port, bus.opened⟩]), [⟨port, bus.opened⟩], ?_, ?_, ?_, ?_, rfl,
        talked.opened⟩
    · rw [record, calls, given, record, List.append_assoc, List.append_assoc]
      rfl
    · rw [List.filterMap_cons, List.filterMap_append, quiet.tried]
      rfl
    · rw [List.filterMap_cons, List.filterMap_append, quiet.opened]
      rfl
    · rw [List.filterMap_cons, List.filterMap_append, quiet.closed]
      rfl
  same name other := talked.same name (by simpa using other)
  there name there := by
    by_cases own : name = port
    · obtain ⟨p, found⟩ := Option.isSome_iff_exists.1 there
      subst own
      obtain ⟨replies, left⟩ := talked.there p found
      exact Option.isSome_iff_exists.2 ⟨_, left⟩
    · exact (talked.same name own).symm ▸ there

end SerialBus

namespace SerialClient

variable {bus : SerialBus} {c : SerialClient} {line : SerialLine} {p : SerialPort}

theorem connect_on {port : Text} (there : bus.find? port = some p) (baudRate : Int) :
    let c := on bus port baudRate
    c.connect = match p.openFault with
      | some cause => (.error (.serial (.cannotOpen port cause)),
          { c with bus := bus.record [.opening port c.baudRate none] })
      | none => (.ok (),
          { c with line := some ⟨port, bus.opened⟩, bus := bus.given port c.baudRate }) := by
  intro c
  have fault : bus.openFault? port = p.openFault := by rw [SerialBus.openFault?, there]
  rw [connect]
  dsimp only [c, on]
  rw [SerialBus.openLine, fault]
  cases p.openFault <;> rfl

theorem probe_eq (on : c.line = some line) (there : c.bus.find? line.port = some p) :
    ∃ bus, c.bus.Talked line.port bus ∧ c.probe = match p.talkFault? with
      | some cause => (.error (.serial (.cannotTalk c.port cause)), { c with bus })
      | none => (.ok p.version?, { c with bus, version := p.version? }) := by
  have bytes : bytesOf? (text "?") = some [63] := by rfl
  obtain ⟨bus, talked, result⟩ := SerialBus.talk_eq there [63] commandWait
  refine ⟨bus, talked, ?_⟩
  rw [probe, raw, on, bytes]
  dsimp only
  rw [result]
  cases p.talkFault? <;> rfl

theorem disconnect_eq (on : c.line = some line) (there : c.bus.find? line.port = some p) :
    c.disconnect = (match p.closeFault with
      | some cause => .error (.serial (.cannotClose c.port cause))
      | none => .ok (), { c with bus := c.bus.record [.close line], line := none }) := by
  rw [disconnect, on]
  dsimp only
  rw [SerialBus.closeLine, there, Option.bind_some]
  cases p.closeFault <;> rfl

theorem during_probe {port : Text} (there : bus.find? port = some p) (baudRate : Int) :
    ∃ bus', bus.Visits [port] bus' ∧
      ((∃ fault c, p.fault? = some fault ∧ c.bus = bus' ∧
        (on bus port baudRate).during probe = (.error (.serial fault), c)) ∨
      p.fault? = none ∧ (on bus port baudRate).during probe =
        (.ok p.version?, { on bus' port baudRate with version := p.version? })) := by
  rw [during, connect_on there, SerialPort.fault?, SerialBus.name_of_find? there]
  cases p.openFault with
  | some cause => exact ⟨_, SerialBus.visits_unopened bus port _, .inl ⟨_, _, rfl, rfl, rfl⟩⟩
  | none =>
      dsimp only
      obtain ⟨last, talked, probed⟩ := probe_eq (c := { on bus port baudRate with
          line := some ⟨port, bus.opened⟩,
          bus := bus.given port (on bus port baudRate).baudRate }) rfl there
      obtain ⟨replies, left⟩ := talked.there p there
      refine ⟨_, SerialBus.visits_talked talked, ?_⟩
      rw [probed]
      cases p.talkFault? with
      | some cause =>
          dsimp only
          rw [disconnect_eq rfl left]
          cases p.closeFault with
          | some cause => exact .inl ⟨_, _, rfl, rfl, rfl⟩
          | none => exact .inl ⟨_, _, rfl, rfl, rfl⟩
      | none =>
          dsimp only
          rw [disconnect_eq rfl left]
          cases p.closeFault with
          | some cause => exact .inl ⟨_, _, rfl, rfl, rfl⟩
          | none => exact .inr ⟨rfl, rfl⟩

end SerialClient

namespace Discovery

variable {bus : SerialBus} {p : SerialPort}

theorem probe_cases {port : Text} (there : bus.find? port = some p) (baudRate : Int) :
    let bus' := (probe port baudRate bus).2
    bus.Visits [port] bus' ∧
      ((∃ fault, p.fault? = some fault ∧ probe port baudRate bus = (.failed fault, bus')) ∨
      (p.fault? = none ∧ p.version? = none ∧ probe port baudRate bus = (.other, bus')) ∨
      ∃ version, p.fault? = none ∧ p.version? = some version ∧
        probe port baudRate bus =
          (.found { SerialClient.on bus' port baudRate with version := some version }, bus')) := by
  obtain ⟨bus', visits, done⟩ := SerialClient.during_probe there baudRate
  rw [probe]
  rcases done with ⟨fault, c, fails, rfl, done⟩ | ⟨works, done⟩
  · rw [done]
    exact ⟨visits, .inl ⟨fault, fails, rfl⟩⟩
  · rw [done]
    cases answer : p.version? with
    | none => exact ⟨visits, .inr (.inl ⟨works, rfl, rfl⟩)⟩
    | some version => exact ⟨visits, .inr (.inr ⟨version, works, rfl, rfl⟩)⟩

/-! The search. -/

/-- Ports that are probed one after another, each as it is when its turn comes. -/
inductive Tried (baudRate : Int) : SerialBus → List SerialPort → SerialBus → Prop
  | nil (bus : SerialBus) : Tried baudRate bus [] bus
  | cons {bus last : SerialBus} {p : SerialPort} {ps : List SerialPort}
      (there : bus.find? p.name = some p)
      (rest : Tried baudRate (probe p.name baudRate bus).2 ps last) :
      Tried baudRate bus (p :: ps) last

/-- A port that is no device, or a fault. -/
def Misses (p : SerialPort) : Prop := p.fault? = none → p.version? = none

theorem misses_of_fault {fault : SerialFault} (fails : p.fault? = some fault) : Misses p := by
  intro works
  rw [works] at fails
  cases fails

namespace Tried

variable {baudRate : Int} {bus last : SerialBus} {ps qs : List SerialPort}

theorem visits (tried : Tried baudRate bus ps last) : bus.Visits (ps.map (·.name)) last := by
  induction tried with
  | nil bus => exact .refl bus
  | cons there _ ih => exact (probe_cases there baudRate).1.trans ih

theorem append : Tried baudRate bus (ps ++ qs) last ↔
    ∃ middle, Tried baudRate bus ps middle ∧ Tried baudRate middle qs last := by
  induction ps generalizing bus with
  | nil =>
      refine ⟨fun rest => ⟨bus, .nil bus, rest⟩, ?_⟩
      rintro ⟨middle, ⟨⟩, rest⟩
      exact rest
  | cons p ps ih =>
      constructor
      · rintro (_ | ⟨there, rest⟩)
        obtain ⟨middle, front, back⟩ := ih.1 rest
        exact ⟨middle, .cons there front, back⟩
      · rintro ⟨middle, _ | ⟨there, front⟩, back⟩
        exact .cons there (ih.2 ⟨middle, front, back⟩)

/-- The first time that a port is tried it is as it was at the beginning. -/
theorem find?_first (tried : Tried baudRate bus ps last) :
    ∀ before p after, ps = before ++ p :: after → p.name ∉ before.map (·.name) →
      bus.find? p.name = some p := by
  rintro before p after rfl new
  obtain ⟨middle, front, _ | ⟨there, _⟩⟩ := append.1 tried
  rw [← front.visits.same p.name new, there]

/-- Ports of different names are all as they were at the beginning. -/
theorem find?_distinct (tried : Tried baudRate bus ps last)
    (distinct : (ps.map (·.name)).Nodup) : ∀ p ∈ ps, bus.find? p.name = some p := by
  intro p member
  obtain ⟨before, after, split⟩ := List.append_of_mem member
  rw [split, List.map_append, List.map_cons] at distinct
  have new : p.name ∉ before.map (·.name) := fun earlier =>
    (List.nodup_append.1 distinct).2.2 _ earlier _ (List.mem_cons_self ..) rfl
  exact tried.find?_first before p after split new

end Tried

/-- How a search ends: with the first port that does not miss, or with the faults of
all. -/
inductive Searched (baudRate : Int) (bus : SerialBus) (names : List Text)
    (faults : List SerialFault) : Except Fault SerialClient × SerialBus → Prop
  | found {passed : List SerialPort} {p : SerialPort} {version : Text} {after : List Text}
      {last : SerialBus} (tried : Tried baudRate bus (passed ++ [p]) last)
      (missed : ∀ q ∈ passed, Misses q) (works : p.fault? = none)
      (answers : p.version? = some version)
      (order : names = passed.map (·.name) ++ p.name :: after) :
      Searched baudRate bus names faults
        (.ok { SerialClient.on last p.name baudRate with version := some version }, last)
  | missed {passed : List SerialPort} {last : SerialBus}
      (tried : Tried baudRate bus passed last) (missed : ∀ q ∈ passed, Misses q)
      (order : names = passed.map (·.name)) :
      Searched baudRate bus names faults
        (.error (.noDevice (faults ++ passed.filterMap SerialPort.fault?)), last)

theorem Searched.pass {baudRate : Int} {names : List Text} {faults : List SerialFault}
    {result : Except Fault SerialClient × SerialBus} (there : bus.find? p.name = some p)
    (misses : Misses p)
    (rest : Searched baudRate (probe p.name baudRate bus).2 names
      (faults ++ p.fault?.toList) result) :
    Searched baudRate bus (p.name :: names) faults result := by
  cases rest with
  | found tried missed works answers order =>
      exact .found (.cons there tried) (List.forall_mem_cons.2 ⟨misses, missed⟩) works answers
        (congrArg _ order)
  | @missed passed last tried missed order =>
      have all : faults ++ p.fault?.toList ++ passed.filterMap SerialPort.fault? =
          faults ++ (p :: passed).filterMap SerialPort.fault? := by
        rw [List.filterMap_cons, List.append_assoc]
        cases p.fault? <;> rfl
      rw [all]
      exact .missed (.cons there tried) (List.forall_mem_cons.2 ⟨misses, missed⟩)
        (congrArg _ order)

theorem searched_first (baudRate : Int) (names : List Text) (bus : SerialBus)
    (faults : List SerialFault)
    (there : ∀ name ∈ names, (bus.find? name).isSome = true) :
    Searched baudRate bus names faults (first baudRate bus names faults) := by
  induction names generalizing bus faults with
  | nil =>
      have ended : Searched baudRate bus [] faults (.error (.noDevice (faults ++ [])), bus) :=
        .missed (.nil bus) (List.forall_mem_nil _) rfl
      rw [List.append_nil] at ended
      exact ended
  | cons name names ih =>
      obtain ⟨here, others⟩ := List.forall_mem_cons.1 there
      obtain ⟨p, found⟩ := Option.isSome_iff_exists.1 here
      cases SerialBus.name_of_find? found
      obtain ⟨visits, done⟩ := probe_cases found baudRate
      -- a probe takes away no port, so the others are still there to be tried
      have rest := fun faults => ih (probe p.name baudRate bus).2 faults
        fun name member => visits.there name (others name member)
      rw [first]
      rcases done with ⟨fault, fails, probed⟩ | ⟨works, silent, probed⟩ |
        ⟨version, works, answers, probed⟩
      · rw [probed]
        exact .pass found (misses_of_fault fails) (by rw [fails]; exact rest _)
      · have misses : Misses p := fun _ => silent
        rw [probed]
        exact .pass found misses (by rw [works, Option.toList_none, List.append_nil]; exact rest _)
      · have tried : Tried baudRate bus ([] ++ [p]) (probe p.name baudRate bus).2 :=
          .cons found (.nil _)
        rw [probed]
        exact .found tried (List.forall_mem_nil _) works answers rfl

theorem find?_listed (bus : SerialBus) :
    ∀ name ∈ (bus.ports.filter (·.listed)).map (·.name), (bus.find? name).isSome = true := by
  intro name member
  obtain ⟨p, listed, rfl⟩ := List.mem_map.1 member
  exact List.find?_isSome.2 ⟨p, (List.mem_filter.1 listed).1, by simp⟩

theorem find_none (baudRate : Int) (bus : SerialBus) :
    find none baudRate bus =
      if (bus.ports.filter (·.listed)).map (·.name) = [] then (.error .noPorts, bus)
      else first baudRate bus ((bus.ports.filter (·.listed)).map (·.name)) [] := by
  rw [find]
  split
  · next none => exact (if_pos none).symm
  · next some => exact (if_neg some).symm

theorem message_noDevice (faults : List SerialFault) :
    (Fault.noDevice faults).message = if faults = [] then text "no Jumperless device found"
      else text "no Jumperless device found: " ++
        Text.joinWith (text "; ") (faults.map SerialFault.message) := by
  cases faults <;> rfl

/-- The search probes the listed ports in order, up to the first whose probe has no fault
and a version in its reply. It closes each line that it opens once, and without a device
it reports the faults of all ports. -/
theorem first_device_found (baudRate : Int) (bus : SerialBus) :
    let names := (bus.ports.filter (·.listed)).map (·.name)
    ∃ tried last, Tried baudRate bus tried last ∧
      (∃ made, last.calls = bus.calls ++ made ∧
        made.filterMap SerialCall.tried? = tried.map (·.name) ∧
        made.filterMap SerialCall.closed? = made.filterMap SerialCall.opened? ∧
        (made.filterMap SerialCall.opened?).Nodup) ∧
      (∀ before p after, tried = before ++ p :: after → p.name ∉ before.map (·.name) →
        bus.find? p.name = some p) ∧
      ((∃ passed p version after c, tried = passed ++ [p] ∧
        names = tried.map (·.name) ++ after ∧ (∀ q ∈ passed, Misses q) ∧
        p.fault? = none ∧ p.version? = some version ∧
        find none baudRate bus = (.ok c, last) ∧
        c.port = p.name ∧ c.version = some version ∧ c.isOpen = false) ∨
      ∃ fault, names = tried.map (·.name) ∧ (∀ q ∈ tried, Misses q) ∧
        find none baudRate bus = (.error fault, last) ∧
        fault.message =
          let faults := tried.filterMap SerialPort.fault?
          if names = [] then text "no serial port found"
          else if faults = [] then text "no Jumperless device found"
          else text "no Jumperless device found: " ++
            Text.joinWith (text "; ") (faults.map SerialFault.message)) := by
  intro names
  have searched := searched_first baudRate names bus [] (find?_listed bus)
  have whole : find none baudRate bus =
      if names = [] then (.error .noPorts, bus) else first baudRate bus names [] :=
    find_none baudRate bus
  generalize first baudRate bus names [] = result at searched whole
  cases searched with
  | @found passed p version after last tried missed works answers order =>
      refine ⟨passed ++ [p], last, tried, tried.visits.nodup, tried.find?_first, .inl
        ⟨passed, p, version, after,
          { SerialClient.on last p.name baudRate with version := some version },
          rfl, ?_, missed, works, answers, ?_, rfl, rfl, rfl⟩⟩
      · rw [order, List.map_append, List.append_assoc]
        rfl
      · rw [whole, if_neg (by simp [order])]
  | @missed passed last tried missed order =>
      refine ⟨passed, last, tried, tried.visits.nodup, tried.find?_first, .inr
        ⟨if names = [] then .noPorts else .noDevice (passed.filterMap SerialPort.fault?),
          order, missed, ?_, ?_⟩⟩
      · rw [whole]
        split
        · next none =>
            rw [none] at order
            cases List.map_eq_nil_iff.1 order.symm
            cases tried
            rfl
        · rfl
      · dsimp only
        split
        · rfl
        · exact message_noDevice _

def fifth : SerialPort where
  name := text "ttyACM0"
  replies := [(Utf8.encode? (text "Firmware version: 5.2")).getD []]

def crowd : SerialBus where
  ports := [
    { name := text "ttyS0", openFault := some (text "busy") },
    { name := text "ttyS1", replies := [[104, 105]], closeFault := some (text "stuck") },
    { name := text "ttyS2", readFault := some (text "gone") },
    { name := text "ttyS3", replies := [[104, 105]] }, fifth,
    { name := text "ttyACM1", openFault := some (text "busy") }]

theorem fifth_answers : fifth.fault? = none ∧ fifth.version? = some (text "5.2") := by
  constructor
  · rfl
  · decide +kernel

theorem crowd_misses : ∀ p ∈ crowd.ports, p = fifth ∨ Misses p := by
  have silent : Firmware.version? (Utf8.decodeReplacing [104, 105]) = none := by decide +kernel
  simp only [crowd, List.forall_mem_cons]
  exact ⟨.inr (misses_of_fault rfl), .inr (misses_of_fault rfl), .inr (misses_of_fault rfl),
    .inr fun _ => silent, .inl trivial, .inr (misses_of_fault rfl), List.forall_mem_nil _⟩

theorem crowd_searched :
    ∃ c last, find none 0 crowd = (.ok c, last) ∧
      c.port = text "ttyACM0" ∧ c.version = some (text "5.2") ∧ c.isOpen = false ∧
      last.calls.filterMap SerialCall.closed? = last.calls.filterMap SerialCall.opened? := by
  obtain ⟨fine, version⟩ := fifth_answers
  obtain ⟨tried, last, probed, ⟨made, calls, order, closed, _⟩, _, found | missed⟩ :=
    first_device_found 0 crowd
  · obtain ⟨passed, p, v, after, c, rfl, names, _, works, answers, done, port, same, shut⟩ :=
      found
    have distinct : ((crowd.ports.filter (·.listed)).map (·.name)).Nodup := by decide
    rw [names] at distinct
    have there := probed.find?_distinct (List.nodup_append.1 distinct).1 p (by simp)
    rcases crowd_misses p (List.mem_of_find?_eq_some there) with rfl | misses
    · refine ⟨c, last, done, port, ?_, shut, ?_⟩
      · rw [same, ← answers, version]
      · rw [calls]
        exact closed
    · rw [misses works] at answers
      cases answers
  · obtain ⟨fault, names, missed, _⟩ := missed
    have distinct : ((crowd.ports.filter (·.listed)).map (·.name)).Nodup := by decide
    have listed : fifth.name ∈ (crowd.ports.filter (·.listed)).map (·.name) := by decide
    rw [names] at distinct listed
    obtain ⟨q, member, same⟩ := List.mem_map.1 listed
    have there := probed.find?_distinct distinct q member
    rw [same, show crowd.find? fifth.name = some fifth by rfl] at there
    cases there
    rw [missed fifth member fine] at version
    cases version

end Discovery

end Breadboard
