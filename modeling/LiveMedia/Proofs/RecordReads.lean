import LiveMedia.Proofs.Nal.RoundTrip
import LiveMedia.Proofs.RecordLayout

set_option autoImplicit false

/-!
# Records read from behind a cursor

A cursor takes bytes off the front of a buffer without a look at how many are left: a read past
the end is a fault of the program and no error of the record. So each read has to be led up to by
a demand for as many bytes as it takes. Here the two records are read once more from behind such
a cursor, with the demands where they are needed, and the outcome is that of the readers that
check each read by itself. So no read runs past the end, whatever the bytes are.

## Main definitions

* `LiveMedia.Record.Cursor` — reads with two ways to stop, an underrun and a refusal.
* `LiveMedia.Record.Cursor.Matches` — a cursor does as a reader does, on buffers of some length.
* `LiveMedia.Avc.DecoderConfig.parseUnchecked`, `LiveMedia.Hevc.DecoderConfig.parseUnchecked` — the
  two records read from behind a cursor.

## Main results

* `LiveMedia.Avc.DecoderConfig.parseUnchecked_eq`,
  `LiveMedia.Hevc.DecoderConfig.parseUnchecked_eq` — the outcome is that of the parser, so it is
  never an underrun.
* `LiveMedia.Nal.units_scan_encode_iff` — when a scan gives back the units behind start codes.
* `LiveMedia.Record.parse_exact` — what is accepted, what is read, and what the sets become.
-/

namespace LiveMedia

namespace Record

/-! ## Cursors -/

/-- Why reading from behind a cursor stops. -/
inductive Stop where
  /-- A read runs past the end of the buffer. -/
  | underrun
  /-- The record is refused. -/
  | refused (e : MediaError)
  deriving DecidableEq, Repr

/-- Takes bytes off the front of a buffer, without a look at how many are left. -/
abbrev Cursor (α : Type) := StateT Bytes (Except Stop) α

namespace Cursor

variable {α β : Type}

/-- The next `n` bytes. -/
def bytes (n : Nat) : Cursor Bytes := fun data =>
  if data.length < n then .error .underrun else .ok (data.take n, data.drop n)

/-- A big-endian number of `width` bytes. -/
def number (width : Nat) : Cursor Nat := do
  let field ← bytes width
  pure (Bytes.toNatBE field)

/-- The byte at position `i`, which stays where it is. -/
def byteAt (i : Nat) : Cursor Nat := fun data =>
  match data[i]? with
  | none => .error .underrun
  | some b => .ok (b.toNat, data)

/-- Goes on if `n` bytes are left, and refuses the record otherwise. -/
def demand (n : Nat) (short : MediaError) : Cursor Unit := fun data =>
  if data.length < n then .error (.refused short) else .ok ((), data)

/-- A byte string behind its length, a number of two bytes. -/
def sized (tooLong : Defect) : Cursor Bytes := do
  demand 2 .truncated
  let length ← number 2
  demand length (.invalid tooLong)
  bytes length

/-- The next `n` items. -/
def times (item : Cursor α) : (n : Nat) → Cursor (List α)
  | 0 => pure []
  | n + 1 => do
    let x ← item
    let xs ← times item n
    pure (x :: xs)

end Cursor

/-! ## One step after another -/

section

variable {ε α β : Type} {x : StateT Bytes (Except ε) α} {f : α → StateT Bytes (Except ε) β}
  {data rest : Bytes} {n width : Nat}

/-- After a step that succeeds the next one goes on with what is left. -/
lemma run_bind_of_ok {a : α} (h : x.run data = .ok (a, rest)) :
    (x >>= f).run data = (f a).run rest := by
  rw [StateT.run_bind, h]
  rfl

/-- A step that fails is the last one. -/
lemma run_bind_of_error {e : ε} (h : x.run data = .error e) : (x >>= f).run data = .error e := by
  rw [StateT.run_bind, h]
  rfl

lemma run_take_of_lt {short : MediaError} (h : data.length < n) :
    (take n short).run data = .error short :=
  if_pos h

lemma run_take_of_le {short : MediaError} (h : n ≤ data.length) :
    (take n short).run data = .ok (data.take n, data.drop n) :=
  if_neg (Nat.not_lt.2 h)

lemma run_number_of_lt (h : data.length < width) :
    (number width).run data = .error .truncated :=
  run_bind_of_error (run_take_of_lt h)

lemma run_number_of_le (h : width ≤ data.length) :
    (number width).run data = .ok (Bytes.toNatBE (data.take width), data.drop width) :=
  run_bind_of_ok (run_take_of_le h)

namespace Cursor

lemma run_bytes_of_le (h : n ≤ data.length) :
    (bytes n).run data = .ok (data.take n, data.drop n) :=
  if_neg (Nat.not_lt.2 h)

lemma run_number_of_le (h : width ≤ data.length) :
    (number width).run data = .ok (Bytes.toNatBE (data.take width), data.drop width) :=
  run_bind_of_ok (run_bytes_of_le h)

lemma run_byteAt {i : Nat} (h : i < data.length) :
    (byteAt i).run data = .ok (data[i].toNat, data) := by
  rw [StateT.run, byteAt, List.getElem?_eq_getElem h]

lemma run_demand_of_lt {short : MediaError} (h : data.length < n) :
    (demand n short).run data = .error (.refused short) :=
  if_pos h

lemma run_demand_of_le {short : MediaError} (h : n ≤ data.length) :
    (demand n short).run data = .ok ((), data) :=
  if_neg (Nat.not_lt.2 h)

end Cursor

end

/-! ## Cursors that do as readers do -/

section

variable {α β : Type} {n width : Nat}

/-- A buffer of less than `n` bytes is too short for a reader. -/
def Reader.Needs (n : Nat) (x : Reader α) : Prop :=
  ∀ data : Bytes, data.length < n → x.run data = .error .truncated

namespace Reader.Needs

lemma zero (x : Reader α) : Needs 0 x :=
  fun _ h => absurd h (Nat.not_lt_zero _)

lemma bind {x : Reader α} {g : α → Reader β} (h : Needs n x) : Needs n (x >>= g) :=
  fun data hdata => run_bind_of_error (h data hdata)

/-- A number needs its bytes, and then what follows needs its own. -/
lemma number_bind {g : Nat → Reader β} (hg : ∀ v, Needs n (g v)) :
    Needs (width + n) (number width >>= g) := by
  intro data h
  rcases Nat.lt_or_ge data.length width with hlt | hge
  · exact run_bind_of_error (run_number_of_lt hlt)
  · rw [run_bind_of_ok (run_number_of_le hge)]
    refine hg _ _ ?_
    rw [List.length_drop]
    omega

end Reader.Needs

/-- On every buffer of at least `n` bytes a cursor does as a reader does; in particular it does
not underrun. -/
def Cursor.Matches (n : Nat) (c : Cursor α) (x : Reader α) : Prop :=
  ∀ data : Bytes, n ≤ data.length → c.run data = (x.run data).mapError .refused

namespace Cursor.Matches

variable {c : Cursor α} {x : Reader α} {f : α → Cursor β} {g : α → Reader β}

lemma pure (a : α) : Matches 0 (Pure.pure a) (Pure.pure a) :=
  fun _ _ => rfl

/-- What stands behind a refusal is not looked at. -/
lemma refuse_bind (e : MediaError) (f : α → Cursor β) (g : α → Reader β) :
    Matches n (throw (.refused e) >>= f) (throw e >>= g) :=
  fun _ _ => rfl

lemma bind (h : Matches n c x) (hf : ∀ a, Matches 0 (f a) (g a)) :
    Matches n (c >>= f) (x >>= g) := by
  intro data hdata
  rw [StateT.run_bind, StateT.run_bind, h data hdata]
  cases x.run data with
  | error e => rfl
  | ok r => exact hf r.1 r.2 (Nat.zero_le _)

/-- What is left of the buffer does not matter. -/
lemma run'_eq (h : Matches n c x) {data : Bytes} (hdata : n ≤ data.length) :
    c.run' data = (x.run' data).mapError .refused := by
  have hcursor : c.run' data = (c.run data).map Prod.fst := rfl
  have hreader : x.run' data = (x.run data).map Prod.fst := rfl
  rw [hcursor, hreader, h data hdata]
  cases x.run data <;> rfl

/-- **What a number takes is there**, if the buffer is long enough for it and for what follows. -/
lemma number_bind {f : Nat → Cursor β} {g : Nat → Reader β} (h : ∀ v, Matches n (f v) (g v)) :
    Matches (width + n) (number width >>= f) (Record.number width >>= g) := by
  intro data hdata
  have hwidth : width ≤ data.length := by omega
  rw [run_bind_of_ok (run_number_of_le hwidth), run_bind_of_ok (Record.run_number_of_le hwidth)]
  refine h _ _ ?_
  rw [List.length_drop]
  omega

lemma ite {p : Prop} [Decidable p] {c' : Cursor α} {x' : Reader α} (h : Matches n c x)
    (h' : Matches n c' x') : Matches n (if p then c else c') (if p then x else x') := by
  split
  · exact h
  · exact h'

/-- A demand for what the reader needs leads up to the reads behind it. -/
lemma demand_bind {c : Cursor β} {x : Reader β} (h : Matches n c x) (hx : x.Needs n) :
    Matches 0 (demand n .truncated >>= fun _ => c) x := by
  intro data _
  rcases Nat.lt_or_ge data.length n with hlt | hge
  · rw [run_bind_of_error (run_demand_of_lt hlt), hx data hlt]
    rfl
  · rw [run_bind_of_ok (run_demand_of_le hge), h data hge]

/-- Bytes that were demanded are taken. -/
lemma demand_bytes (n : Nat) (short : MediaError) :
    Matches 0 (demand n short >>= fun _ => bytes n) (take n short) := by
  intro data _
  rcases Nat.lt_or_ge data.length n with hlt | hge
  · rw [run_bind_of_error (run_demand_of_lt hlt), run_take_of_lt hlt]
    rfl
  · rw [run_bind_of_ok (run_demand_of_le hge), run_bytes_of_le hge, run_take_of_le hge]
    rfl

lemma sized (tooLong : Defect) : Matches 0 (Cursor.sized tooLong) (Record.sized tooLong) :=
  (number_bind (n := 0) fun length => demand_bytes length (.invalid tooLong)).demand_bind
    (.number_bind fun _ => .zero _)

lemma times (h : Matches 0 c x) (n : Nat) :
    Matches 0 (Cursor.times c n) (Record.times x n) := by
  induction n with
  | zero => exact .pure _
  | succ n ih => exact h.bind fun _ => ih.bind fun _ => .pure _

end Cursor.Matches

end

end Record

open Record

/-! ## Units behind start codes -/

/-- **Units come back from between four-byte codes just if none of them holds a start code.** -/
theorem Nal.units_scan_encode_iff {nals : List Bytes} :
    let stream := (Framing.startCode .long).encode nals
    (scan stream).units stream = nals ↔ ∀ nal ∈ nals, CodeFree nal := by
  constructor
  · intro h nal hnal
    rw [← h] at hnal
    exact (of_mem_units_scan hnal).1
  · intro hfree
    have hunits := (Framing.startCode .long).units_frame nals
    rwa [← scan_frame hfree] at hunits

/-! ## The avcC record -/

namespace Avc.DecoderConfig

/-- A counted list of parameter sets, read from behind a cursor. -/
def setsUnchecked (modulus : Nat) : Cursor (List Bytes) := do
  let count ← Cursor.number 1
  Cursor.times (Cursor.sized .parameterSetExceeds) (count % modulus)

/-- Reads the fields of the record `raw` from behind a cursor, with a demand only for the count of
the second list. -/
def fieldsUnchecked (raw : Bytes) : Cursor DecoderConfig := do
  let version ← Cursor.number 1
  if version ≠ 1 then
    throw (.refused (.invalid .avccVersion))
  let profile ← Cursor.number 1
  let compatibility ← Cursor.number 1
  let level ← Cursor.number 1
  let lengthByte ← Cursor.number 1
  let sps ← setsUnchecked 32
  Cursor.demand 1 .truncated
  let pps ← setsUnchecked 256
  pure {
    profile := UInt8.ofNat profile
    compatibility := UInt8.ofNat compatibility
    level := UInt8.ofNat level
    lengthSize := lengthByte % 4 + 1
    sps, pps, raw }

/-- Parses a record from behind a cursor. The fewest bytes of a record are demanded at once. -/
def parseUnchecked (data : Bytes) : Except Stop DecoderConfig :=
  (do Cursor.demand minSize .truncated; fieldsUnchecked data : Cursor DecoderConfig).run' data

lemma matches_sets (modulus : Nat) :
    Cursor.Matches 1 (setsUnchecked modulus) (parameterSets modulus) :=
  Cursor.Matches.number_bind (n := 0) fun _ => (Cursor.Matches.sized _).times _

lemma needs_sets (modulus : Nat) : Reader.Needs 1 (parameterSets modulus) :=
  .number_bind fun _ => .zero _

/-- Six bytes are enough to get to the sets of the first list. -/
lemma matches_fields (raw : Bytes) : Cursor.Matches 6 (fieldsUnchecked raw) (fields raw) := by
  refine .number_bind (n := 5) fun version => ?_
  refine .ite (.refuse_bind _ _ _) ?_
  refine .number_bind (n := 4) fun profile => .number_bind (n := 3) fun compatibility =>
    .number_bind (n := 2) fun level => .number_bind (n := 1) fun lengthByte =>
    (matches_sets 32).bind fun sps => ?_
  exact .demand_bind ((matches_sets 256).bind fun pps => .pure _) (needs_sets 256).bind

/-- **No read of the cursor runs past the end**, and it does as the parser does.

**Proof sketch.** The seven bytes demanded at once are one more than the six that lead to the
first list (`matches_fields`); from there on each read has its own demand. -/
theorem parseUnchecked_eq (data : Bytes) :
    parseUnchecked data = (parse data).mapError .refused := by
  rw [parseUnchecked, parse]
  split
  · next hshort =>
    exact congrArg (Except.map Prod.fst) (run_bind_of_error (Cursor.run_demand_of_lt hshort))
  · next hlong =>
    have hsize : minSize ≤ data.length := Nat.not_lt.1 hlong
    have hmet : (do Cursor.demand minSize .truncated; fieldsUnchecked data).run data =
        (fieldsUnchecked data).run data := run_bind_of_ok (Cursor.run_demand_of_le hsize)
    have hfields := (matches_fields data).run'_eq ((Nat.le_succ 6).trans hsize)
    exact (congrArg (Except.map Prod.fst) hmet).trans hfields

end Avc.DecoderConfig

/-! ## The hvcC record -/

namespace Hevc.DecoderConfig

/-- An array of units, read from behind a cursor. -/
def arrayUnchecked : Cursor (List Bytes) := do
  Cursor.demand 3 .truncated
  let _nalType ← Cursor.number 1
  let count ← Cursor.number 2
  Cursor.times (Cursor.sized .hvccNalExceeds) count

/-- Reads the fields of the record `raw` from behind a cursor. The bytes of the header are looked up
where they are, and skipped at last. -/
def fieldsUnchecked (raw : Bytes) : Cursor DecoderConfig := do
  Cursor.demand headerSize .truncated
  let version ← Cursor.byteAt 0
  if version ≠ 1 then
    throw (.refused (.invalid .hvccVersion))
  let profileByte ← Cursor.byteAt 1
  let levelByte ← Cursor.byteAt 12
  let lengthByte ← Cursor.byteAt 21
  let count ← Cursor.byteAt 22
  let _header ← Cursor.bytes headerSize
  let arrays ← Cursor.times arrayUnchecked count
  pure {
    profileIdc := profileByte % 32
    levelIdc := levelByte
    lengthSize := lengthByte % 4 + 1
    units := arrays.flatten
    raw }

/-- Parses a record from behind a cursor. -/
def parseUnchecked (data : Bytes) : Except Stop DecoderConfig :=
  (fieldsUnchecked data).run' data

lemma matches_unitArray : Cursor.Matches 0 arrayUnchecked unitArray := by
  refine .demand_bind ?_ ?_
  · exact .number_bind (n := 2) fun nalType => .number_bind (n := 0) fun count =>
      (Cursor.Matches.sized _).times count
  · exact .number_bind (n := 2) fun nalType => .number_bind fun count => .zero _

/-- A byte looked up in the buffer is the byte of the header. -/
lemma run_byteAt_header {β : Type} {f : Nat → Cursor β} {data : Bytes} {i : Nat}
    (hsize : headerSize ≤ data.length) (hi : i < headerSize) :
    (Cursor.byteAt i >>= f).run data = (f (headerByte (data.take headerSize) i)).run data := by
  have hlen : i < data.length := hi.trans_le hsize
  rw [run_bind_of_ok (Cursor.run_byteAt hlen), headerByte, List.getElem?_take_of_lt hi,
    List.getElem?_eq_getElem hlen, Option.getD_some]

/-- The reader takes the header off first and the cursor last; in between neither moves. -/
lemma matches_fields (raw : Bytes) : Cursor.Matches 0 (fieldsUnchecked raw) (fields raw) := by
  intro data _
  rw [fieldsUnchecked, fields]
  rcases Nat.lt_or_ge data.length headerSize with hlt | hge
  · rw [run_bind_of_error (Cursor.run_demand_of_lt hlt), run_bind_of_error (run_take_of_lt hlt)]
    rfl
  · rw [run_bind_of_ok (Cursor.run_demand_of_le hge), run_byteAt_header hge (by decide),
      run_bind_of_ok (run_take_of_le hge)]
    split
    · rfl
    · rw [run_byteAt_header hge (by decide), run_byteAt_header hge (by decide),
        run_byteAt_header hge (by decide), run_byteAt_header hge (by decide),
        run_bind_of_ok (Cursor.run_bytes_of_le hge)]
      exact ((matches_unitArray.times _).bind fun arrays => .pure _) _ (Nat.zero_le _)

/-- **No read of the cursor runs past the end**, and it does as the parser does. -/
theorem parseUnchecked_eq (data : Bytes) :
    parseUnchecked data = (parse data).mapError .refused :=
  (matches_fields data).run'_eq (Nat.zero_le _)

end Hevc.DecoderConfig

/-! ## What is accepted, what is read, and what the sets become -/

/-- **Records are accepted just as they are written, and read without a step past the end.** For
the avcC and the hvcC record alike:

* a buffer is parsed just if some well-formed layout writes it, and the result is what the layout
  says: the fields, the sets in record order, and the buffer itself;
* the parameter sets behind start codes are what a scan finds there, just if none of them holds
  `00 00 01`;
* a cursor that takes bytes off without a look at how many are left ends as the parser does, with
  the same result or the same error, so that none of its reads runs past the end.

**Proof sketch.** The readers are inverted field by field (`fields_eq_ok_iff`), the four-byte codes
between units are always found (`Nal.units_scan_encode_iff`), and each read of the cursor is led up
to by a demand or by a check of the whole length (`Record.Cursor.Matches`). -/
theorem Record.parse_exact :
    (∀ (data : Bytes) (config : Avc.DecoderConfig), Avc.DecoderConfig.parse data = .ok config ↔
      ∃ x : Avc.DecoderConfig.Layout, x.WellFormed ∧ x.bytes = data ∧ x.config = config) ∧
    (∀ (data : Bytes) (config : Hevc.DecoderConfig), Hevc.DecoderConfig.parse data = .ok config ↔
      ∃ x : Hevc.DecoderConfig.Layout, x.WellFormed ∧ x.bytes = data ∧ x.config = config) ∧
    (∀ config : Avc.DecoderConfig,
      (Nal.scan config.toByteStream).units config.toByteStream = config.allSets ↔
        ∀ nal ∈ config.allSets, ¬ [0, 0, 1] <:+: nal) ∧
    (∀ config : Hevc.DecoderConfig,
      (Nal.scan config.toByteStream).units config.toByteStream = config.parameterSets ↔
        ∀ nal ∈ config.parameterSets, ¬ [0, 0, 1] <:+: nal) ∧
    (∀ data : Bytes, Avc.DecoderConfig.parseUnchecked data =
      (Avc.DecoderConfig.parse data).mapError .refused) ∧
    ∀ data : Bytes, Hevc.DecoderConfig.parseUnchecked data =
      (Hevc.DecoderConfig.parse data).mapError .refused :=
  ⟨fun _ _ => Avc.DecoderConfig.parse_eq_ok_iff, fun _ _ => Hevc.DecoderConfig.parse_eq_ok_iff,
    fun _ => Nal.units_scan_encode_iff, fun _ => Nal.units_scan_encode_iff,
    Avc.DecoderConfig.parseUnchecked_eq, Hevc.DecoderConfig.parseUnchecked_eq⟩

/-- An avcC record with two sets, one of them empty, and a byte behind it; and an hvcC record with
an array that is empty and one of a parameter set and of a unit that is not emitted. -/
theorem Record.parse_exact_two_sets :
    let avc : Avc.DecoderConfig.Layout :=
      ⟨66, 0xC0, 30, 0xFF, 0xE1, [[0x67, 66, 0]], [[]], [9]⟩
    let hevc : Hevc.DecoderConfig.Layout :=
      ⟨1 :: 0x21 :: List.replicate 10 0 ++ 93 :: List.replicate 8 0 ++ [3, 2],
        [⟨32, []⟩, ⟨33, [[0x42, 1, 0], [0x4E, 1]]⟩], []⟩
    Avc.DecoderConfig.parse avc.bytes = .ok avc.config ∧
    Hevc.DecoderConfig.parse hevc.bytes = .ok hevc.config ∧
    (Nal.scan avc.config.toByteStream).units avc.config.toByteStream = [[0x67, 66, 0], []] ∧
    (Nal.scan hevc.config.toByteStream).units hevc.config.toByteStream = [[0x42, 1, 0]] ∧
    Avc.DecoderConfig.parseUnchecked (avc.bytes.take 9) =
      .error (.refused (.invalid .parameterSetExceeds)) ∧
    Hevc.DecoderConfig.parseUnchecked (hevc.bytes.take 24) = .error (.refused .truncated) := by
  intro avc hevc
  obtain ⟨havc, hhevc, havcScan, hhevcScan, havcCursor, hhevcCursor⟩ := Record.parse_exact
  refine ⟨(havc _ _).2 ⟨avc, ?_, rfl, rfl⟩, (hhevc _ _).2 ⟨hevc, ?_, rfl, rfl⟩, ?_, ?_, ?_, ?_⟩
  · exact ⟨by decide, by decide, by decide, by decide⟩
  · exact ⟨by decide, by decide, by decide, List.forall_mem_cons.2 ⟨⟨by decide, by decide⟩,
      List.forall_mem_singleton.2 ⟨by decide, by decide⟩⟩⟩
  · exact (havcScan avc.config).2 (by decide)
  · exact (hhevcScan hevc.config).2 (by decide)
  · rw [havcCursor]
    decide
  · rw [hhevcCursor]
    decide

end LiveMedia
