import Breadboard.Proofs.Response.Sink

/-! How the bytes of a response reach a channel. The pieces in which they are offered depend on the
manner of the response, the bytes do not. Whatever a channel takes of each offer, it gets a
beginning of these bytes, and the first offer that it cuts short is the last. -/

namespace Breadboard

open Placeholder

/-- All segments but the last are full. -/
theorem segments_eq {size : Nat} (positive : 0 < size) (data : Bytes) :
    ∃ full last, segments size data = full ++ [last] ∧ (∀ piece ∈ full, piece.length = size) ∧
      last.length ≤ size ∧ (data ≠ [] → last ≠ []) := by
  fun_induction segments size data with
  | case1 data larger ih =>
      obtain ⟨full, last, cut, sizes, short, given⟩ := ih
      refine ⟨data.take size :: full, last, by rw [cut, List.cons_append], ?_, short, ?_⟩
      · intro piece member
        rcases List.mem_cons.1 member with rfl | later
        · rw [List.length_take]
          omega
        · exact sizes piece later
      · intro _
        apply given
        rw [← List.length_pos_iff, List.length_drop]
        omega
  | case2 data small =>
      have short : data.length ≤ size := by omega
      exact ⟨[], data, rfl, by simp, short, id⟩

theorem Placeholder.ne_nil_of_resolve? {board : Board} {s t : Text} (given : s ≠ [])
    (resolved : resolve? board s = some t) : t ≠ [] := by
  refine resolve?_induction (motive := (· ≠ [])) resolved given ?_
  intro stands at? slot s t given passed
  cases s using slot.induction with
  | nil => exact absurd rfl given
  | cons c s missed =>
      obtain ⟨later, _, rfl⟩ := replaceBy?_cons_eq_some missed passed
      exact List.cons_ne_nil _ _
  | braced inner out rest known =>
      obtain ⟨value, later, _, plain, _, rfl⟩ := slot.replaceBy?_braced_eq_some known passed
      exact fun nothing => plain.nonempty (List.append_eq_nil_iff.1 nothing).1

theorem Utf8.encode?_ne_nil {s : Text} (given : s ≠ []) {data : Bytes}
    (encodes : Utf8.encode? s = some data) : data ≠ [] := by
  obtain ⟨c, rest, rfl⟩ := List.exists_cons_of_ne_nil given
  obtain ⟨front, back, first, _, rfl⟩ :=
    Utf8.encode?_append_eq_some (show Utf8.encode? ([c] ++ rest) = some data from encodes)
  intro nothing
  obtain ⟨rfl, _⟩ := List.append_eq_nil_iff.1 nothing
  cases c with
  | char c =>
      have some : String.utf8EncodeChar c ++ [] = [] := Option.some.inj first
      exact String.utf8EncodeChar_ne_nil (List.append_eq_nil_iff.1 some).1
  | lone offset =>
      simp only [Utf8.encode?, Utf8.encodePoint?] at first
      split at first <;> simp at first

namespace Act

/-! The pieces of what is sent for a chunk. -/

def cut (m : Manner) (part : Bytes) : List Bytes :=
  if part = [] then []
  else if m.segmented && 0 < m.segmentSize then segments m.segmentSize.toNat part
  else [part]

def paced (m : Manner) (pieces : List Bytes) : List Act :=
  if 0.0 < m.segmentDelay then (pieces.map .write).intersperse (.pause m.segmentDelay)
  else pieces.map .write

/-- How bytes are to be cut: not at all, or into pieces of one size, of which only the last may be
smaller. -/
structure Pieces (m : Manner) (part : Bytes) (pieces : List Bytes) : Prop where
  whole : pieces.flatten = part
  none : part = [] → pieces = []
  one : part ≠ [] → ¬ (m.segmented = true ∧ 0 < m.segmentSize) → pieces = [part]
  full : part ≠ [] → m.segmented = true → 0 < m.segmentSize →
    ∃ full last, pieces = full ++ [last] ∧ (∀ piece ∈ full, piece.length = m.segmentSize) ∧
      last ≠ [] ∧ last.length ≤ m.segmentSize

theorem pieces_cut (m : Manner) (part : Bytes) : Pieces m part (cut m part) := by
  by_cases given : part = []
  · subst given
    exact ⟨rfl, fun _ => rfl, fun given => absurd rfl given, fun given => absurd rfl given⟩
  · by_cases segmented : m.segmented = true ∧ 0 < m.segmentSize
    · have cuts : cut m part = segments m.segmentSize.toNat part := by
        rw [cut, if_neg given, if_pos (by simpa using segmented)]
      rw [cuts]
      refine ⟨segments_flatten _ _, fun nothing => absurd nothing given,
        fun _ whole => absurd segmented whole, fun _ _ _ => ?_⟩
      have positive : 0 < m.segmentSize.toNat := by omega
      obtain ⟨full, last, parts, sizes, short, some⟩ := segments_eq positive part
      refine ⟨full, last, parts, fun piece member => ?_, some given, by omega⟩
      rw [sizes piece member]
      omega
    · have cuts : cut m part = [part] := by
        rw [cut, if_neg given, if_neg (by simpa using segmented)]
      rw [cuts]
      exact ⟨by simp, fun nothing => absurd nothing given, fun _ _ => rfl,
        fun _ on positive => absurd ⟨on, positive⟩ segmented⟩

theorem spaced_eq (delay : Float) (pieces : List Bytes) :
    spaced delay pieces =
      if 0.0 < delay then (pieces.map .write).intersperse (.pause delay)
      else pieces.map .write := by
  fun_induction spaced delay pieces with
  | case1 => simp
  | case2 data => simp
  | case3 data rest given ih =>
      obtain ⟨next, rest, rfl⟩ := List.exists_cons_of_ne_nil (by simpa using given)
      rw [ih]
      split
      · simp only [List.map_cons, List.intersperse_cons_cons]
        rfl
      · rfl

theorem sendText_eq (m : Manner) {board : Board} {s : Text} {part : Bytes}
    (writes : bytes? board s = some part) : sendText m board s = paced m (cut m part) := by
  by_cases given : s = []
  · subst given
    rw [bytes?_nil] at writes
    cases writes
    simp [sendText, cut, paced]
  · obtain ⟨t, resolved, encodes⟩ := Option.bind_eq_some_iff.1 writes
    have some := Utf8.encode?_ne_nil (ne_nil_of_resolve? given resolved) encodes
    rw [sendText, if_neg (by simpa using given)]
    simp only [resolved, encodes]
    rw [sendBytes, cut, if_neg some, paced]
    split
    · exact spaced_eq _ _
    · simp

/-! What is sent for each chunk. -/

/-- What can be sent of a text, and what is held back of it; nothing is, when no chunk follows. -/
def release (rest : List Chunk) (s : Text) : Text × Text :=
  if rest.isEmpty then (s, []) else splitOpen s

def sent (found : Option Match) : (held : Text) → List Chunk → Except IntegerFault (List Text)
  | _, [] => .ok []
  | held, c :: rest => do
      let s ← render found c.data
      let texts ← sent found (release rest (held ++ s)).2 rest
      return (release rest (held ++ s)).1 :: texts

theorem sent_cons_eq_ok {found : Option Match} {held : Text} {c : Chunk} {rest : List Chunk}
    {texts : List Text} (sends : sent found held (c :: rest) = .ok texts) :
    ∃ s later, render found c.data = .ok s ∧
      sent found (release rest (held ++ s)).2 rest = .ok later ∧
      texts = (release rest (held ++ s)).1 :: later := by
  rw [sent] at sends
  cases rendered : render found c.data with
  | error fault =>
      rw [rendered] at sends
      cases sends
  | ok s =>
      rw [rendered] at sends
      obtain ⟨later, after, rfl⟩ := map_eq_ok (f := (_ :: ·)) sends
      exact ⟨s, later, rfl, after, rfl⟩

theorem release_append (rest : List Chunk) (s : Text) :
    (release rest s).1 ++ (release rest s).2 = s := by
  rw [release]
  split
  · exact List.append_nil s
  · exact (split_splitOpen s).append.symm

/-- The texts that are sent are the rendered ones, cut at other places. -/
theorem flatten_sent {found : Option Match} {held : Text} {chunks : List Chunk}
    {texts : List Text} (sends : sent found held chunks = .ok texts)
    (last : chunks = [] → held = []) :
    ∃ whole, chunks.mapM (render found ·.data) = .ok whole ∧
      texts.flatten = held ++ whole.flatten := by
  induction chunks generalizing held texts with
  | nil =>
      cases sends
      exact ⟨[], rfl, by rw [last rfl]; rfl⟩
  | cons c rest ih =>
      obtain ⟨s, later, rendered, after, rfl⟩ := sent_cons_eq_ok sends
      have none : rest = [] → (release rest (held ++ s)).2 = [] := by
        rintro rfl
        rfl
      obtain ⟨others, whole, flat⟩ := ih after none
      refine ⟨s :: others, by rw [List.mapM_cons, rendered, whole]; rfl, ?_⟩
      rw [List.flatten_cons, flat, ← List.append_assoc, release_append, List.flatten_cons,
        List.append_assoc]

def Encoded (board : Board) : (texts : List Text) → (parts : List Bytes) → Prop :=
  List.Forall₂ fun s part => bytes? board s = some part

/-- A response that can be written as it is rendered can be sent, if the placeholders in it have
values. -/
theorem encoded_of_rendered {board : Board} {found : Option Match} {held : Text}
    {chunks : List Chunk} {whole : List Text} {data : Bytes}
    (rendered : chunks.mapM (render found ·.data) = .ok whole)
    (encodes : Utf8.encode? (held ++ whole.flatten) = some data) :
    ∃ texts, sent found held chunks = .ok texts ∧
      ((∀ s ∈ texts, resolve? board s ≠ none) → ∃ parts, Encoded board texts parts) := by
  induction chunks generalizing held whole data with
  | nil => exact ⟨[], rfl, fun _ => ⟨[], .nil⟩⟩
  | cons c rest ih =>
      obtain ⟨s, others, first, later, rfl⟩ := mapM_cons_eq_ok rendered
      rw [List.flatten_cons, ← List.append_assoc, ← release_append rest (held ++ s),
        List.append_assoc] at encodes
      obtain ⟨front, back, now, after, _⟩ := Utf8.encode?_append_eq_some encodes
      obtain ⟨texts, sends, all⟩ := ih later after
      refine ⟨(release rest (held ++ s)).1 :: texts, ?_, fun values => ?_⟩
      · rw [sent, first]
        simp only [bind, Except.bind, sends]
        rfl
      · obtain ⟨own, others⟩ := List.forall_mem_cons.1 values
        obtain ⟨t, resolved⟩ := Option.ne_none_iff_exists'.1 own
        obtain ⟨part, encoded⟩ := encodes_resolve? now resolved
        obtain ⟨parts, rest⟩ := all others
        exact ⟨part :: parts, .cons (Option.bind_eq_some_iff.2 ⟨t, resolved, encoded⟩) rest⟩

theorem sendChunks_cons (m : Manner) (board : Board) {found : Option Match} {held : Text}
    {c : Chunk} {rest : List Chunk} {s : Text} (rendered : render found c.data = .ok s) :
    sendChunks m board found held (c :: rest) =
      waiting c.delay c.jitter ++ (sendText m board (release rest (held ++ s)).1 ++
        sendChunks m board found (release rest (held ++ s)).2 rest) := by
  rw [sendChunks, rendered]
  rfl

theorem sendChunks_eq (m : Manner) {board : Board} {found : Option Match} {held : Text}
    {chunks : List Chunk} {texts : List Text} {parts : List Bytes}
    (sends : sent found held chunks = .ok texts) (encoded : Encoded board texts parts) :
    sendChunks m board found held chunks =
      (List.zipWith (fun c part => waiting c.delay c.jitter ++ paced m (cut m part))
        chunks parts).flatten := by
  induction chunks generalizing held texts parts with
  | nil => rfl
  | cons c rest ih =>
      obtain ⟨s, later, rendered, after, rfl⟩ := sent_cons_eq_ok sends
      cases encoded with
      | cons now others =>
          rw [sendChunks_cons m board rendered, sendText_eq m now, ih after others,
            List.zipWith_cons_cons, List.flatten_cons, List.append_assoc]

theorem sends_encoded (m : Manner) {board : Board} {found : Option Match} {held : Text}
    {chunks : List Chunk} {texts : List Text} {parts : List Bytes}
    (sends : sent found held chunks = .ok texts) (encoded : Encoded board texts parts) :
    Sends (sendChunks m board found held chunks) parts.flatten := by
  induction chunks generalizing held texts parts with
  | nil =>
      cases sends
      cases encoded
      exact .nil
  | cons c rest ih =>
      obtain ⟨s, later, rendered, after, rfl⟩ := sent_cons_eq_ok sends
      cases encoded with
      | cons now others =>
          rw [sendChunks_cons m board rendered]
          exact (sends_waiting c.delay c.jitter).append
            ((sends_sendText m now).append (ih after others))

end Act

/-- A response is sent as one run of bytes, which its manner only cuts and paces. Whatever a channel
takes of the pieces, it gets a beginning of these bytes: all of them if no piece is cut short, and
nothing is offered after the first that is. -/
theorem pieces_of_delivery (board : Board) {found : Option Match} {r : Response}
    {texts : List Text} {parts : List Bytes} (sends : Act.sent found [] r.chunks = .ok texts)
    (encoded : Act.Encoded board texts parts) :
    r.rendered found = .ok texts.flatten ∧
      ∀ m : Manner,
        Act.plan m board found r = Act.waiting m.delay m.jitter ++
          (List.zipWith (fun c part => Act.waiting c.delay c.jitter ++ Act.paced m (Act.cut m part))
            r.chunks parts).flatten ∧
        (∀ part ∈ parts, Act.Pieces m part (Act.cut m part)) ∧
        (∀ (s : Outlet.Sink) (d : Dice), s.Outcome (Act.plan m board found r) parts.flatten
          (s.perform [] d (Act.plan m board found r)).1
          (s.perform [] d (Act.plan m board found r)).2.2) ∧
        ∀ (o : Outlet) (d : Dice), (∀ n, o = .most n → 0 ≤ n) →
          o.perform d (Act.plan m board found r) =
            o.sink.perform [] d (Act.plan m board found r) := by
  constructor
  · obtain ⟨whole, rendered, flat⟩ := Act.flatten_sent sends fun _ => rfl
    rw [Response.rendered, rendered, flat]
    rfl
  · intro m
    have plan : Act.Sends (Act.plan m board found r) parts.flatten :=
      (Act.sends_waiting m.delay m.jitter).append (Act.sends_encoded m sends encoded)
    refine ⟨?_, fun part _ => Act.pieces_cut m part, fun s d => s.outcome_perform d plan, ?_⟩
    · rw [Act.plan, Act.sendChunks_eq m sends encoded]
    · intro o d fair
      exact Outlet.perform_sink fair [] d _

def accented : Response :=
  ⟨["\u00e9\x7b\x7bgpio_", "value:1\x7d\x7dx"].map fun part => { data := text part }, 1⟩

def bytewise : Manner := { segmented := true, segmentSize := 1 }

theorem accented_pieces :
    Act.sent none [] accented.chunks =
        .ok [text "\u00e9", text "\x7b\x7bgpio_value:1\x7d\x7dx"] ∧
      Act.Encoded Engine.bare.board [text "\u00e9", text "\x7b\x7bgpio_value:1\x7d\x7dx"]
        [[0xC3, 0xA9], [0x30, 0x78]] ∧
      Act.cut bytewise [0xC3, 0xA9] = [[0xC3], [0xA9]] ∧
      ∀ d, (Outlet.mute.perform d (Act.plan bytewise Engine.bare.board none accented)).2.2 =
        none := by
  have sends : Act.sent none [] accented.chunks =
      .ok [text "\u00e9", text "\x7b\x7bgpio_value:1\x7d\x7dx"] := by decide
  have encoded : Act.Encoded Engine.bare.board
      [text "\u00e9", text "\x7b\x7bgpio_value:1\x7d\x7dx"] [[0xC3, 0xA9], [0x30, 0x78]] :=
    .cons (by cbv) (.cons (by cbv) .nil)
  obtain ⟨_, delivered⟩ := pieces_of_delivery Engine.bare.board sends encoded
  obtain ⟨_, _, outcome, outlets⟩ := delivered bytewise
  refine ⟨sends, encoded, by simp [Act.cut, bytewise, segments], fun d => ?_⟩
  rw [outlets .mute d fun _ => Outlet.noConfusion]
  refine ((outcome Outlet.mute.sink d).finished ?_).2
  intro before data _ short
  exact Nat.lt_irrefl _ short

end Breadboard
