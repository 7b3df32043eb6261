import Breadboard.Proofs.Board.Channels
import Breadboard.Proofs.Board.Connections
import Breadboard.Proofs.Board.Written

/-! What a request does to a board. Of each kind the first command is obeyed, in the order of the
kinds; so a command that is alone in its request is obeyed and nothing else happens. -/

namespace Breadboard

namespace Command

open Text

/-- What a command makes of a board. A value that is no number, or no integer where one is wanted,
makes nothing of it. -/
def obey : Command → Board → Board
  | setDac channel value, b =>
      match readFloat? value with
      | some volts => (b.setDac channel volts).2
      | none => b
  | setPin pin value, b =>
      match readInteger value with
      | .ok i => (b.setPin pin i).2
      | .error _ => b
  | connect x y, b => (b.connect x y).2
  | disconnect x y, b => (b.disconnect x y).2
  | clear, b => b.clearConnections

def obeyAny (c? : Option Command) (b : Board) : Board := c?.elim b (·.obey b)

def first (commands : List Command) (k : Kind) : Option Command := commands.find? (·.kind = k)

/-- The board after the first command of each kind. -/
def obeyFirsts (commands : List Command) (b : Board) : Board :=
  Kind.all.foldl (fun b k => obeyAny (first commands k) b) b

theorem kind_of_first {commands : List Command} {k : Kind} {c : Command}
    (found : first commands k = some c) : c.kind = k := by
  simpa using List.find?_some found

/-! What a command leaves as it is. -/

/-- A change of the part of a board that a kind of command is about. -/
inductive Touches (b : Board) : Kind → Board → Prop
  | dac (dac : Dict Float) : Touches b .dac { b with dac }
  | pins (pins : Dict Pin) : Touches b .pin { b with pins }
  | connections (whole : k.whole = true) (connections : List Connection) :
      Touches b k { b with connections }

variable {b b' : Board} {k : Kind}

theorem touches_refl (b : Board) (k : Kind) : Touches b k b := by
  cases k with
  | dac => exact .dac b.dac
  | pin => exact .pins b.pins
  | connect | disconnect | clear => exact .connections rfl b.connections

theorem touches_obey (c : Command) (b : Board) : Touches b c.kind (c.obey b) := by
  cases c with
  | setDac channel value =>
      rw [obey]
      split
      · rw [Board.setDac]
        split
        · exact .dac _
        · exact touches_refl b .dac
      · exact touches_refl b .dac
  | setPin pin value =>
      rw [obey]
      split
      · rw [Board.setPin]
        split
        · exact .pins _
        · exact touches_refl b .pin
      · exact touches_refl b .pin
  | connect x y =>
      rw [obey, Board.connect]
      split
      · exact touches_refl b .connect
      · exact .connections rfl _
  | disconnect x y =>
      rw [obey, Board.disconnect]
      split
      · exact .connections rfl _
      · exact touches_refl b .disconnect
  | clear => exact .connections rfl []

theorem Touches.same_pins (touches : Touches b k b') (other : k ≠ .pin) : b'.pins = b.pins := by
  cases touches with
  | dac | connections => rfl
  | pins => exact absurd rfl other

theorem Touches.same_connections (touches : Touches b k b') (part : k.whole = false) :
    b'.connections = b.connections := by
  cases touches with
  | dac | pins => rfl
  | connections whole =>
      rw [part] at whole
      cases whole

variable {commands : List Command}

theorem touches_obeyAny (commands : List Command) (k : Kind) (b : Board) :
    Touches b k (obeyAny (first commands k) b) := by
  cases found : first commands k with
  | none => exact touches_refl b k
  | some c => exact kind_of_first found ▸ touches_obey c b

/-- What a command makes of the pins follows from them alone. -/
theorem pins_obey_congr {c : Command} (own : c.kind = .pin) (same : b.pins = b'.pins) :
    (c.obey b).pins = (c.obey b').pins := by
  cases c with
  | setPin pin value =>
      rw [obey, obey]
      split
      · rw [Board.setPin, Board.setPin, same]
        split
        · rfl
        · exact same
      · exact same
  | setDac | connect | disconnect | clear => cases own

theorem pins_obeyFirsts (commands : List Command) (b : Board) :
    (obeyFirsts commands b).pins = (obeyAny (first commands .pin) b).pins := by
  have order : obeyFirsts commands b = obeyAny (first commands .clear)
      (obeyAny (first commands .disconnect) (obeyAny (first commands .connect)
        (obeyAny (first commands .pin) (obeyAny (first commands .dac) b)))) := rfl
  have leaves {k : Kind} (other : k ≠ .pin) (b : Board) :
      (obeyAny (first commands k) b).pins = b.pins :=
    (touches_obeyAny commands k b).same_pins other
  rw [order, leaves (by decide), leaves (by decide), leaves (by decide)]
  have before : (obeyAny (first commands .dac) b).pins = b.pins := leaves (by decide) b
  cases found : first commands .pin with
  | none => exact before
  | some c => exact pins_obey_congr (kind_of_first found) before

/-- Where nothing is disconnected, two nodes are connected that were so before or that the first
connecting command names. -/
theorem isConnected_obeyFirsts (noDisconnect : first commands .disconnect = none)
    (noClear : first commands .clear = none) (b : Board) (x y : Text) :
    (obeyFirsts commands b).isConnected x y = true ↔ b.isConnected x y = true ∨
      ∃ x' y', first commands .connect = some (.connect x' y') ∧ s(x', y') = s(x, y) := by
  have order : obeyFirsts commands b = obeyAny (first commands .connect)
      (obeyAny (first commands .pin) (obeyAny (first commands .dac) b)) := by
    rw [obeyFirsts, Kind.all]
    simp only [List.foldl_cons, List.foldl_nil, noDisconnect, noClear]
    rfl
  have before : (obeyAny (first commands .pin) (obeyAny (first commands .dac) b)).connections =
      b.connections := by
    rw [(touches_obeyAny commands .pin _).same_connections rfl,
      (touches_obeyAny commands .dac b).same_connections rfl]
  rw [order]
  generalize obeyAny (first commands .pin) (obeyAny (first commands .dac) b) = b' at before
  have same : b'.isConnected x y = b.isConnected x y := by
    rw [Board.isConnected, Board.isConnected, before]
  cases found : first commands .connect with
  | none =>
      rw [obeyAny, Option.elim_none, same]
      simp
  | some c =>
      cases c with
      | connect x' y' =>
          refine (Board.isConnected_connect b' x' y' x y).trans ?_
          rw [same]
          refine or_congr_right ⟨fun pair => ⟨x', y', rfl, pair⟩, ?_⟩
          rintro ⟨_, _, equality, pair⟩
          cases equality
          exact pair
      | setDac | setPin | disconnect | clear => cases kind_of_first found

/-! The recognisers of commands. -/

variable {α β : Type}

theorem first?_map (word : Text) (arguments? : Text → Option α) (f : α → β) (s : Text) :
    first? word (fun s => (arguments? s).map f) s = (first? word arguments? s).map f := by
  induction s with
  | nil => rfl
  | cons c s ih =>
      rw [first?, first?, ih]
      cases Text.dropLead? word (c :: s) with
      | none => rfl
      | some rest =>
          rw [Option.bind_some, Option.bind_some]
          cases arguments? rest <;> rfl

theorem firstWhole?_map (word : Text) (arguments? : Text → Option α) (f : α → β) (inWord : Bool)
    (s : Text) :
    firstWhole? word (fun s => (arguments? s).map f) inWord s =
      (firstWhole? word arguments? inWord s).map f := by
  induction s generalizing inWord with
  | nil => rfl
  | cons c s ih =>
      rw [firstWhole?, firstWhole?, ih]
      cases inWord with
      | true => rfl
      | false =>
          rw [if_neg Bool.false_ne_true, if_neg Bool.false_ne_true]
          cases Text.dropLead? word (c :: s) with
          | none => rfl
          | some rest =>
              rw [Option.bind_some, Option.bind_some]
              cases arguments? rest <;> rfl

end Command

namespace Board

open Command Text

theorem applySetDac_eq (request : Text) (b : Board) :
    b.applySetDac request = obeyAny (Kind.dac.find? request) b := by
  have found : Kind.dac.find? request =
      (setDac? request).map fun setting => .setDac setting.1 setting.2 := first?_map ..
  rw [applySetDac, found]
  cases setDac? request <;> rfl

theorem applySetPin_eq (request : Text) (b : Board) :
    b.applySetPin request = obeyAny (Kind.pin.find? request) b := by
  have found : Kind.pin.find? request =
      (setPin? request).map fun setting => .setPin setting.1 setting.2 := first?_map ..
  rw [applySetPin, found]
  cases setPin? request <;> rfl

theorem applyConnect_eq (request : Text) (b : Board) :
    b.applyConnect request = obeyAny (Kind.connect.find? request) b := by
  have found : Kind.connect.find? request =
      (connect? request).map fun pair => .connect pair.1 pair.2 := firstWhole?_map ..
  rw [applyConnect, found]
  cases connect? request <;> rfl

theorem applyDisconnect_eq (request : Text) (b : Board) :
    b.applyDisconnect request = obeyAny (Kind.disconnect.find? request) b := by
  have found : Kind.disconnect.find? request =
      (disconnect? request).map fun pair => .disconnect pair.1 pair.2 := firstWhole?_map ..
  rw [applyDisconnect, found]
  cases disconnect? request <;> rfl

theorem applyClear_eq (request : Text) (b : Board) :
    b.applyClear request = obeyAny (Kind.clear.find? request) b := by
  have found : Kind.clear.find? request = (clear? request).map fun _ => .clear :=
    firstWhole?_map ..
  rw [applyClear, found]
  cases clear? request <;> rfl

theorem apply_eq (request : Text) (b : Board) :
    b.apply request = Kind.all.foldl (fun b k => obeyAny (k.find? request) b) b := by
  rw [apply, applyClear_eq, applyDisconnect_eq, applyConnect_eq, applySetPin_eq, applySetDac_eq]
  rfl

theorem apply_of_holds {commands : List Command} {request : Text} (holds : Holds commands request)
    (b : Board) : b.apply request = obeyFirsts commands b := by
  rw [apply_eq, obeyFirsts]
  simp only [holds.find?, first]

/-- A request with one command and any text around it, without parentheses and with no letter
right before the command, does to the board what the command says, and nothing else. -/
theorem apply_single {c : Command} {front s back : Text} (written : c.Written s)
    (before : Unbracketed front) (ended : ∀ d ∈ front.getLast?, d.isWord = false)
    (after : Unbracketed back) (b : Board) : b.apply (front ++ (s ++ back)) = c.obey b := by
  have holds : Holds [c] (front ++ (s ++ back)) :=
    .after before.opening ended written (holds_nothing after.opening)
  rw [apply_of_holds holds]
  cases c <;> rfl

/-- Two inner blanks, a comma in the second name and blanks of several scripts. -/
theorem disconnect_single :
    (stock.withConnections [⟨text "D,  7", text "GPIO_1"⟩, ⟨text "A", text "B"⟩]).apply
        (text "> " ++ (text "disconnect(\u00a0GPIO_1 ,\tD,  7\u2003)" ++ text " connect")) =
      ((stock.withConnections [⟨text "D,  7", text "GPIO_1"⟩, ⟨text "A", text "B"⟩]).disconnect
        (text "GPIO_1") (text "D,  7")).2 :=
  apply_single (c := .disconnect (text "GPIO_1") (text "D,  7"))
    ⟨_, .disconnect (.intro _ _ (by decide) (by decide) (by decide) (by decide) (by decide)
        (.intro (text "\u00a0") (text " ") (by decide) (by decide))
        (.intro (text "\t") (text "\u2003") (by decide) (by decide))), rfl⟩
    (by decide) (by decide) (by decide) _

/-- Whatever commands a request holds, the first of each kind is obeyed and the others are not:
only the first voltage reaches an output and only the first value a pin, and where nothing is
disconnected, a pair is connected exactly if it was so before or is the first to be named. -/
theorem obeys_firsts {commands : List Command} {request : Text} (holds : Holds commands request)
    (b : Board) :
    b.apply request = obeyFirsts commands b ∧
      (b.apply request).dac = (obeyAny (first commands .dac) b).dac ∧
      (b.apply request).pins = (obeyAny (first commands .pin) b).pins ∧
      (first commands .disconnect = none → first commands .clear = none → ∀ x y,
        ((b.apply request).isConnected x y = true ↔ b.isConnected x y = true ∨
          ∃ x' y', first commands .connect = some (.connect x' y') ∧ s(x', y') = s(x, y))) := by
  have whole := apply_of_holds holds b
  refine ⟨whole, ?_, ?_, fun noDisconnect noClear x y => ?_⟩
  · rw [dac_apply, applySetDac_eq, holds.find?]
    rfl
  · rw [whole, pins_obeyFirsts]
  · rw [whole]
    exact isConnected_obeyFirsts noDisconnect noClear b x y

/-- Commands that came in one read. -/
def crowd : List Command := [.connect (text "A") (text "B"), .connect (text "C") (text "D"),
  .setPin (text "1") (text "1"), .setPin (text "2") (text "1")]

def crowdRequest : Text := text "connect(A, B); connect(C, D); gpio_set(1, 1); gpio_set(2, 1)"

theorem holds_crowd : Holds crowd crowdRequest := by
  have pair {x y : Text} (solid : Solid x) (unbracketed : Unbracketed x) (single : .char ',' ∉ x)
      (solid' : Solid y) (unbracketed' : Unbracketed y) :
      Pair x y (([] ++ (x ++ [])) ++ .char ',' :: (text " " ++ (y ++ []))) :=
    .intro _ _ solid unbracketed single solid' unbracketed' (.intro [] [] (by decide) (by decide))
      (.intro (text " ") [] (by decide) (by decide))
  have setting {pin : Text} (given : pin ≠ []) (letters : ∀ c ∈ pin, c.isWord = true) :
      Command.Setting pin (text "1")
        (([] ++ (pin ++ [])) ++ .char ',' :: (text " " ++ (text "1" ++ []))) :=
    .intro _ _ given letters (by decide) (by decide) (.intro [] [] (by decide) (by decide))
      (.intro (text " ") [] (by decide) (by decide))
  have parts : crowdRequest = [] ++ (text "connect(A, B)" ++ (text "; " ++
      (text "connect(C, D)" ++ (text "; " ++ (text "gpio_set(1, 1)" ++ (text "; " ++
        (text "gpio_set(2, 1)" ++ []))))))) := rfl
  rw [parts]
  refine .after (by decide) (by decide) ⟨_, .connect (pair ?_ ?_ ?_ ?_ ?_), rfl⟩ <|
    .after (by decide) (by decide) ⟨_, .connect (pair ?_ ?_ ?_ ?_ ?_), rfl⟩ <|
    .after (by decide) (by decide) ⟨_, .setPin (setting ?_ ?_), rfl⟩ <|
    .after (by decide) (by decide) ⟨_, .setPin (setting ?_ ?_), rfl⟩ <|
    holds_nothing (by decide)
  all_goals decide

theorem crowd_firsts : Holds crowd crowdRequest ∧
    (stock.apply crowdRequest).isConnected (text "A") (text "B") = true ∧
    (stock.apply crowdRequest).pinValue? (text "1") = some 1 := by
  obtain ⟨_, _, pins, connected⟩ := obeys_firsts holds_crowd stock
  refine ⟨holds_crowd, ?_, ?_⟩
  · exact (connected rfl rfl (text "A") (text "B")).2 (.inr ⟨_, _, rfl, rfl⟩)
  · rw [pinValue?, pins]
    decide

/-- Not every command of a request takes effect. -/
theorem later_commands_lost : Holds crowd crowdRequest ∧
    .connect (text "C") (text "D") ∈ crowd ∧
    (stock.apply crowdRequest).isConnected (text "C") (text "D") = false ∧
    .setPin (text "2") (text "1") ∈ crowd ∧
    (stock.apply crowdRequest).pinValue? (text "2") = some 0 := by
  refine ⟨holds_crowd, ?_, ?_, ?_, ?_⟩
  · exact List.mem_cons_of_mem _ List.mem_cons_self
  · decide +kernel
  · exact List.mem_cons_of_mem _ (List.mem_cons_of_mem _ (.tail _ List.mem_cons_self))
  · decide +kernel

end Board

end Breadboard
