import Breadboard.Proofs.Response.Cut
import Breadboard.Proofs.Text.Quoted
import Breadboard.Response.Engine

/-! What a delivery writes. The chunks of a response are only a schedule: what
is written is their whole text with its placeholders resolved. -/

namespace Breadboard

open Placeholder

theorem mapM_cons_eq_ok {f : α → Except ε β} {a : α} {rest : List α}
    {all : List β} (result : (a :: rest).mapM f = .ok all) :
    ∃ b others, f a = .ok b ∧ rest.mapM f = .ok others ∧ all = b :: others := by
  rw [List.mapM_cons] at result
  cases first : f a with
  | error fault =>
      rw [first] at result
      cases result
  | ok b =>
      rw [first] at result
      cases later : rest.mapM f with
      | error fault =>
          rw [later] at result
          cases result
      | ok others =>
          rw [later] at result
          cases result
          exact ⟨b, others, rfl, rfl, rfl⟩

theorem map_eq_ok {f : α → β} {x : Except ε α} {b : β}
    (result : x.map f = .ok b) : ∃ a, x = .ok a ∧ f a = b := by
  cases x with
  | error fault => cases result
  | ok a =>
      cases result
      exact ⟨a, rfl, rfl⟩

def Placeholder.bytes? (board : Board) (s : Text) : Option Bytes :=
  (resolve? board s).bind Utf8.encode?

theorem Placeholder.bytes?_nil (board : Board) : bytes? board [] = some [] := by
  rw [bytes?, resolve?_nil]
  rfl

theorem Placeholder.bytes?_of_joined {board : Board} {s a b : Text} {data : Bytes}
    (parts : resolve? board s = joined? (resolve? board a) (resolve? board b))
    (writes : bytes? board s = some data) :
    ∃ front back, bytes? board a = some front ∧ bytes? board b = some back ∧
      data = front ++ back := by
  obtain ⟨whole, resolved, encodes⟩ := Option.bind_eq_some_iff.1 writes
  rw [parts] at resolved
  obtain ⟨a', b', first, second, rfl⟩ := Option.map₂_eq_some_iff.1 resolved
  obtain ⟨front, back, now, after, same⟩ := Utf8.encode?_append_eq_some encodes
  exact ⟨front, back, Option.bind_eq_some_iff.2 ⟨a', first, now⟩,
    Option.bind_eq_some_iff.2 ⟨b', second, after⟩, same⟩

def Response.rendered (found : Option Match) (r : Response) :
    Except IntegerFault Text :=
  (r.chunks.mapM (Act.render found ·.data)).map List.flatten

namespace Outlet

def Event.data : Event → Bytes
  | .slept _ => []
  | .wrote data => data

def written (events : List Event) : Bytes := events.flatMap Event.data

/-- An outlet that never takes less than it is offered. -/
def Open (o : Outlet) : Prop :=
  ∀ offered n, o.accepts offered = some n → offered ≤ n

theorem open_iff {o : Outlet} : o.Open ↔ o = .all ∨ o = .mute := by
  constructor
  · intro opened
    cases o with
    | all => exact .inl rfl
    | most n =>
        have more := opened (n.toNat + 1) _ rfl
        omega
    | mute => exact .inr rfl
  · rintro (rfl | rfl) offered n taken
    · cases taken
      exact Int.le_refl _
    · cases taken

end Outlet

namespace Act

def data : Act → Bytes
  | .write data => data
  | _ => []

/-- Acts that write some bytes and do not end in a fault. -/
structure Sends (acts : List Act) (data : Bytes) : Prop where
  fine : ∀ fault, .fail fault ∉ acts
  sent : acts.flatMap Act.data = data

theorem Sends.nil : Sends [] [] where
  fine := fun _ member => nomatch member
  sent := rfl

theorem Sends.append {first rest : List Act} {front back : Bytes}
    (sendsFirst : Sends first front) (sendsRest : Sends rest back) :
    Sends (first ++ rest) (front ++ back) where
  fine := by
    intro fault member
    rcases List.mem_append.1 member with early | late
    · exact sendsFirst.fine fault early
    · exact sendsRest.fine fault late
  sent := by rw [List.flatMap_append, sendsFirst.sent, sendsRest.sent]

theorem Sends.single {act : Act} (fine : ∀ fault, act ≠ .fail fault) :
    Sends [act] act.data where
  fine := by
    intro fault member
    exact fine fault (List.mem_singleton.1 member).symm
  sent := List.flatMap_singleton ..

theorem Sends.perform {acts : List Act} {data : Bytes} (sends : Sends acts data)
    {o : Outlet} (opened : o.Open) (d : Dice) :
    Outlet.written (o.perform d acts).1 = data ∧
      (o.perform d acts).2.2 = none := by
  obtain ⟨fine, rfl⟩ := sends
  induction acts generalizing d with
  | nil => exact ⟨rfl, rfl⟩
  | cons act rest ih =>
      have rest := fun d => ih d fun fault member =>
        fine fault (List.mem_cons_of_mem _ member)
      cases act with
      | wait delay jitter => exact rest _
      | pause seconds => exact rest d
      | write data =>
          obtain ⟨written, silent⟩ := rest d
          have whole : Outlet.written
              (.wrote data :: (o.perform d _).1) = data ++ _ :=
            congrArg (data ++ ·) written
          rw [Outlet.perform]
          split
          · next n taken =>
              rw [if_neg (Int.not_lt.2 (opened _ _ taken))]
              exact ⟨whole, silent⟩
          · exact ⟨whole, silent⟩
      | fail fault => exact absurd (List.mem_cons_self ..) (fine fault)

theorem sends_waiting (delay jitter : Float) : Sends (waiting delay jitter) [] := by
  rw [waiting]
  split
  · exact .nil
  · exact .single fun _ => Act.noConfusion

theorem sends_spaced (delay : Float) (parts : List Bytes) :
    Sends (spaced delay parts) parts.flatten := by
  fun_induction spaced delay parts with
  | case1 => exact .nil
  | case2 data =>
      rw [List.flatten_singleton]
      exact .single fun _ => Act.noConfusion
  | case3 data rest _ ih =>
      have pause : Sends (if 0.0 < delay then [.pause delay] else []) [] := by
        split
        · exact .single fun _ => Act.noConfusion
        · exact .nil
      have first : Sends [.write data] data :=
        .single fun _ => Act.noConfusion
      have whole := (first.append pause).append ih
      rwa [List.append_nil] at whole

theorem sends_sendBytes (m : Manner) (data : Bytes) :
    Sends (sendBytes m data) data := by
  rw [sendBytes]
  split
  · have parts := sends_spaced m.segmentDelay
      (segments m.segmentSize.toNat data)
    rwa [segments_flatten] at parts
  · exact .single fun _ => Act.noConfusion

theorem sends_sendText (m : Manner) {board : Board} {s : Text} {data : Bytes}
    (writes : bytes? board s = some data) : Sends (sendText m board s) data := by
  rw [sendText]
  split
  · next empty =>
      obtain rfl := List.isEmpty_iff.1 empty
      rw [bytes?_nil] at writes
      cases writes
      exact .nil
  · obtain ⟨t, resolved, encodes⟩ := Option.bind_eq_some_iff.1 writes
    simp only [resolved, encodes]
    exact sends_sendBytes m data

/-- A text that is held back is sent with the chunks that follow it. -/
theorem sends_sendChunks (m : Manner) {board : Board} {P : Text → Prop}
    (seamless : Seamless board P) {found : Option Match}
    {chunks : List Chunk} {texts : List Text} {held : Text} {data : Bytes}
    (rendered : chunks.mapM (render found ·.data) = .ok texts)
    (writes : bytes? board (held ++ texts.flatten) = some data)
    (holds : P (held ++ texts.flatten))
    (last : chunks = [] → held = []) :
    Sends (sendChunks m board found held chunks) data := by
  induction chunks generalizing texts held data with
  | nil =>
      cases rendered
      obtain rfl := last rfl
      exact sends_sendText m writes
  | cons c rest ih =>
      obtain ⟨s, others, first, later, rfl⟩ := mapM_cons_eq_ok rendered
      rw [List.flatten_cons, ← List.append_assoc] at writes holds
      rw [sendChunks, first]
      refine (sends_waiting c.delay c.jitter).append ?_
      cases rest with
      | nil =>
          have empty : others = [] := by
            cases later
            rfl
          rw [empty, List.flatten_nil, List.append_nil] at writes
          have text := sends_sendText m writes
          have whole := text.append .nil
          rw [List.append_nil data] at whole
          exact whole
      | cons next rest =>
          obtain ⟨front, back, now, after, rfl⟩ :=
            bytes?_of_joined (seamless.resolve? holds) writes
          rw [(split_splitOpen (held ++ s)).append, List.append_assoc] at holds
          exact (sends_sendText m now).append (ih later after
            (seamless.suffix holds)
            fun empty => absurd empty (List.cons_ne_nil _ _))

theorem sends_plan (m : Manner) {board : Board} {P : Text → Prop}
    (seamless : Seamless board P) {found : Option Match} {r : Response}
    {whole : Text} {data : Bytes}
    (rendered : r.rendered found = .ok whole)
    (writes : bytes? board whole = some data)
    (holds : P whole) : Sends (plan m board found r) data := by
  obtain ⟨texts, parts, rfl⟩ := map_eq_ok rendered
  have chunks : Sends (sendChunks m board found [] r.chunks) data :=
    sends_sendChunks m seamless parts writes holds fun _ => rfl
  exact (sends_waiting m.delay m.jitter).append chunks

end Act

/-! Values are characters, so a text that can be written still can be when
its placeholders are resolved. -/

theorem Placeholder.Slot.encodes_replaceBy? {stands : Text → Option Text → Prop}
    {at? : Text.Recogniser} (slot : Slot stands at?) {s t : Text} {data : Bytes}
    (encodes : Utf8.encode? s = some data)
    (passed : Text.replaceBy? at? s = some t) :
    ∃ sent, Utf8.encode? t = some sent := by
  induction s using slot.induction generalizing data t with
  | nil =>
      rw [replaceBy?_nil] at passed
      cases passed
      exact ⟨[], rfl⟩
  | cons c s missed ih =>
      obtain ⟨later, after, rfl⟩ := replaceBy?_cons_eq_some missed passed
      obtain ⟨front, back, first, rest, _⟩ :=
        Utf8.encode?_append_eq_some
          (show Utf8.encode? ([c] ++ s) = some data from encodes)
      obtain ⟨sent, written⟩ := ih rest after
      exact ⟨_, Utf8.encode?_append_of_eq_some first written⟩
  | braced inner out rest known ih =>
      obtain ⟨value, later, _, plain, after, rfl⟩ :=
        slot.replaceBy?_braced_eq_some known passed
      obtain ⟨_, back, _, behind, _⟩ := Utf8.encode?_append_eq_some encodes
      obtain ⟨front, written⟩ := Utf8.encode?_of_notLone fun c member =>
        (plain.harmless c member).1
      obtain ⟨sent, others⟩ := ih behind after
      exact ⟨_, Utf8.encode?_append_of_eq_some written others⟩

theorem Placeholder.encodes_resolve? {board : Board} {s t : Text} {data : Bytes}
    (encodes : Utf8.encode? s = some data) (resolved : resolve? board s = some t) :
    ∃ sent, Utf8.encode? t = some sent := by
  refine resolve?_induction (motive := fun t => ∃ sent, Utf8.encode? t = some sent)
    resolved ⟨data, encodes⟩ ?_
  rintro stands at? slot s t ⟨data, encodes⟩ passed
  exact slot.encodes_replaceBy? encodes passed

namespace Engine

theorem deliver_sends {acts : List Act} {data : Bytes}
    (sends : Act.Sends acts data) {o : Outlet} (opened : o.Open) (e : Engine) :
    ∃ events dice, e.deliver o (some acts) =
        (.answered, events, { e with dice }) ∧
      Outlet.written events = data := by
  obtain ⟨written, silent⟩ := sends.perform opened e.dice
  rcases performed : o.perform e.dice acts with ⟨events, dice, fault⟩
  rw [performed] at written silent
  obtain rfl : fault = none := silent
  refine ⟨events, dice, ?_, written⟩
  simp only [deliver, performed]

/-- However the text of a response is cut into chunks, what is written is the
whole text with the board's values in its placeholders, provided that they are
not nested, that they have values and that the text can be written at all. -/
theorem deliver_whole (e : Engine) (m : Manner) {found : Option Match}
    {r : Response} {o : Outlet} {whole resolved : Text} {data : Bytes}
    (opened : o.Open) (rendered : r.rendered found = .ok whole)
    (resolves : resolve? e.board whole = some resolved)
    (encodes : Utf8.encode? whole = some data) (flat : ¬ Nested whole) :
    ∃ sent, Utf8.encode? resolved = some sent ∧
      (e.deliver o (some (Act.plan m e.board found r))).1 = .answered ∧
      Outlet.written
        (e.deliver o (some (Act.plan m e.board found r))).2.1 = sent := by
  obtain ⟨sent, encoded⟩ := encodes_resolve? encodes resolves
  have writes : bytes? e.board whole = some sent :=
    Option.bind_eq_some_iff.2 ⟨resolved, resolves, encoded⟩
  obtain ⟨events, dice, delivered, written⟩ :=
    deliver_sends (Act.sends_plan m (seamless_flat e.board) rendered writes
      flat) opened e
  refine ⟨sent, encoded, ?_, ?_⟩
  · rw [delivered]
  · rw [delivered]
    exact written

/-- A placeholder between other braces, cut in the middle of each of its
parts. -/
def scattered : Response :=
  ⟨["a\x7b", "\x7bgpio_va", "", "lue:1\x7d", "\x7d\x7b"].map fun part =>
    { data := text part }, 1⟩

def bare : Engine := ⟨[], { firmware := [] }, .ofList []⟩

theorem deliver_scattered :
    scattered.rendered none = .ok (text "a\x7b\x7bgpio_value:1\x7d\x7d\x7b") ∧
      ¬ Nested (text "a\x7b\x7bgpio_value:1\x7d\x7d\x7b") ∧
      (bare.deliver .all
        (some (Act.plan {} bare.board none scattered))).1 = .answered ∧
      Outlet.written (bare.deliver .all
        (some (Act.plan {} bare.board none scattered))).2.1 =
          [0x61, 0x30, 0x7B] := by
  have rendered : scattered.rendered none =
      .ok (text "a\x7b\x7bgpio_value:1\x7d\x7d\x7b") := by decide
  have flat : ¬ Nested (text "a\x7b\x7bgpio_value:1\x7d\x7d\x7b") := by decide
  have resolves : resolve? bare.board
      (text "a\x7b\x7bgpio_value:1\x7d\x7d\x7b") = some (text "a0\x7b") := by cbv
  obtain ⟨sent, encoded, answered, written⟩ :=
    deliver_whole bare {} (Outlet.open_iff.2 (.inl rfl)) rendered resolves rfl flat
  cases encoded
  exact ⟨rendered, flat, answered, written⟩

end Engine

end Breadboard
