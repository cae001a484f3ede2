import NodeClient.Proofs.CookieFile.FirstLine
import NodeClient.Proofs.Text.Partial

/-! # What is read behind the first line

A cookie file is read by blocks, so more of it is read than its first line. Two files with the same first
line give the same credentials, or are invalid for the same reason, if what is read behind the line end is
UTF-8 in both of them. A file where it is not is refused, whatever its first line says.
-/

namespace NodeClient

namespace CookieFile

open Text

/-- What is read behind a line end at a place is UTF-8: the rest of the block, up to a last character
that may be cut off, and if a carriage return ended the line and no character is complete behind it, the
next block as well; the file then must not end inside a character. -/
def TextBehind (mark : UInt8) (place : Nat) (rest : List UInt8) : Prop :=
  let room := blockSize - 1 - place % blockSize
  ∃ chars after, Reads none (rest.take room) chars after ∧
    (mark = 0x0D → chars = [] → ∃ others later,
      Reads none (rest.take (room + blockSize)) others later ∧ (others = [] → rest = []))

/-- Behind a line end every text is UTF-8. -/
theorem textBehind_encode (mark : UInt8) (place : Nat) (text : List Char) :
    TextBehind mark place (encode text) := by
  -- The beginning of what is read is read.
  have begins (count : Nat) :
      ∃ chars after, Reads none ((encode text).take count) chars after := by
    have whole := reads_encode text
    rw [← List.take_append_drop count (encode text)] at whole
    obtain ⟨before, middle, _, one, _⟩ := reads_append_iff.mp whole
    exact ⟨before, middle, one⟩
  obtain ⟨chars, after, reads⟩ := begins (blockSize - 1 - place % blockSize)
  refine ⟨chars, after, reads, fun _ _ => ?_⟩
  obtain ⟨others, later, further⟩ := begins (blockSize - 1 - place % blockSize + blockSize)
  refine ⟨others, later, further, ?_⟩
  rintro rfl
  have short := further.length_le
  have all : (encode text).take (blockSize - 1 - place % blockSize + blockSize) = encode text := by
    refine List.take_of_length_le ?_
    rw [List.length_take, blockSize] at short
    rw [blockSize]
    omega
  rw [all] at further
  obtain ⟨_, rfl⟩ := further.unique (reads_encode text)
  exact further.eq_nil

/-- A line end a block further on has the same behind it. -/
theorem textBehind_sub {mark : UInt8} {place : Nat} {rest : List UInt8} (far : blockSize ≤ place) :
    TextBehind mark (place - blockSize) rest ↔ TextBehind mark place rest := by
  rw [TextBehind, TextBehind, ← Nat.mod_eq_sub_mod far]

section

variable {state middle : Option PartialChar} {block : List UInt8} {rest : List (List UInt8)}

theorem lineOf_of_not_reads (broken : ¬ ∃ chars after, Reads state block chars after) :
    lineOf state (block :: rest) = .error .notText := by
  rw [lineOf]
  cases read : decodeFrom 0 state block with
  | error fault => rfl
  | ok found => exact absurd ⟨_, _, decodeFrom_eq_ok_iff.mp read⟩ broken

theorem settle_of_not_reads (broken : ¬ ∃ chars after, Reads state block chars after) :
    settle state (block :: rest) = .error .notText := by
  rw [settle]
  cases read : decodeFrom 0 state block with
  | error fault => rfl
  | ok found => exact absurd ⟨_, _, decodeFrom_eq_ok_iff.mp read⟩ broken

private theorem error_of_map {ε α β : Type} {convert : α → β} {outcome : Except ε α} {error : ε}
    (failed : outcome.map convert = .error error) : outcome = .error error := by
  cases outcome with
  | error other => exact congrArg Except.error (Except.error.inj failed)
  | ok value => exact nomatch failed

private theorem ok_of_map {ε α β : Type} {convert : α → β} {outcome : Except ε α} {value : β}
    (given : outcome.map convert = .ok value) : ∃ source, outcome = .ok source ∧ value = convert source := by
  cases outcome with
  | error other => exact nomatch given
  | ok source => exact ⟨source, rfl, (Except.ok.inj given).symm⟩

/-- Reading on fails for one reason only. -/
theorem settle_error {blocks : List (List UInt8)} {fault : CookieFault}
    (failed : settle state blocks = .error fault) : fault = .notText := by
  induction blocks generalizing state with
  | nil =>
    rw [settle] at failed
    split_ifs at failed
    exact (Except.error.inj failed).symm
  | cons block rest ih =>
    rw [settle] at failed
    split at failed
    · exact (Except.error.inj failed).symm
    · exact ih failed
    · contradiction

/-- The first line is not read for one reason only. -/
theorem lineOf_error {blocks : List (List UInt8)} {fault : CookieFault}
    (failed : lineOf state blocks = .error fault) : fault = .notText := by
  induction blocks generalizing state with
  | nil =>
    rw [lineOf] at failed
    split_ifs at failed
    exact (Except.error.inj failed).symm
  | cons block rest ih =>
    rw [lineOf] at failed
    split at failed
    · exact (Except.error.inj failed).symm
    · dsimp only at failed
      split at failed
      · exact ih (error_of_map failed)
      · exact settle_error (error_of_map failed)
      · contradiction

end

/-- Behind a carriage return at the end of a block, with the beginning of a character at most, reading
on is reading the next block. -/
theorem settle_eq_ok_iff {rest : List UInt8} {room : Nat} {middle : Option PartialChar}
    (reads : Reads none (rest.take room) [] middle) :
    settle middle (blocks (rest.drop room)) = .ok () ↔ ∃ others later,
      Reads none (rest.take (room + blockSize)) others later ∧ (others = [] → rest = []) := by
  by_cases ended : rest.drop room = []
  · -- The file ends in this block.
    have all : rest.length ≤ room := List.drop_eq_nil_iff.mp ended
    rw [List.take_of_length_le all] at reads
    rw [ended, blocks_nil, List.take_of_length_le (by omega), settle]
    constructor
    · intro settled
      cases middle with
      | none => exact ⟨[], none, reads, fun _ => reads.eq_nil⟩
      | some char => contradiction
    · rintro ⟨others, later, further, whole⟩
      obtain ⟨rfl, rfl⟩ := further.unique reads
      obtain rfl := whole rfl
      cases reads
      rfl
  · have next (others : List Char) (later : Option PartialChar) :
        Reads none (rest.take (room + blockSize)) others later ↔
          Reads middle ((rest.drop room).take blockSize) others later := by
      rw [List.take_add, reads_append_iff]
      constructor
      · rintro ⟨before, state, more, one, two, rfl⟩
        obtain ⟨rfl, rfl⟩ := one.unique reads
        exact two
      · exact fun two => ⟨[], middle, others, reads, two, rfl⟩
    have nonempty : rest ≠ [] := by
      rintro rfl
      exact ended List.drop_nil
    rw [blocks_of_ne_nil ended]
    by_cases readable :
        ∃ others later, Reads middle ((rest.drop room).take blockSize) others later
    · obtain ⟨others, later, further⟩ := readable
      cases others with
      | nil =>
        -- No character takes so many bytes, so the file ends in the next block, and in a character.
        have total := ((next _ _).mpr further).length_le
        have last : (rest.drop room).drop blockSize = [] := by
          rw [List.drop_drop, List.drop_eq_nil_iff]
          rw [List.length_take, blockSize] at total
          rw [blockSize]
          omega
        rw [settle, decodeFrom_eq_ok_iff.mpr further]
        dsimp only
        rw [last, blocks_nil, settle]
        constructor
        · intro settled
          cases later with
          | none =>
            have taken := ((next _ _).mpr further).eq_nil
            rw [List.take_eq_nil_iff, blockSize] at taken
            exact absurd taken (by simp [nonempty])
          | some char => contradiction
        · rintro ⟨others, later', other, whole⟩
          obtain ⟨rfl, rfl⟩ := other.unique ((next _ _).mpr further)
          exact absurd (whole rfl) nonempty
      | cons c more =>
        rw [settle, decodeFrom_eq_ok_iff.mpr further]
        refine iff_of_true rfl ⟨_, later, (next _ _).mpr further, fun empty => ?_⟩
        contradiction
    · rw [settle_of_not_reads readable]
      refine iff_of_false (by simp) ?_
      rintro ⟨others, later, further, _⟩
      exact readable ⟨others, later, (next _ _).mp further⟩

/-- What starts with bytes that end no line and goes on with one that does is read as its characters. -/
theorem reads_break_iff {state after : Option PartialChar} {front back : List UInt8} {mark : UInt8}
    {chars : List Char} (known : ∀ char ∈ state, char.Sound) (ends : EndsLine mark) :
    Reads state (front ++ mark :: back) chars after ↔ ∃ line others,
      Reads state front line none ∧ Reads none back others after ∧
        chars = line ++ Char.ofNat mark.toNat :: others := by
  rw [reads_append_iff]
  constructor
  · rintro ⟨line, middle, others, one, two, rfl⟩
    cases two with
    | whole first two =>
      obtain rfl := FirstByte.whole.inj (first.symm.trans ends.firstByte_eq)
      exact ⟨line, _, one, two, rfl⟩
    | start first _ => exact nomatch first.symm.trans ends.firstByte_eq
    | last extended _ _ _ | further extended _ _ =>
      exact nomatch extended.symm.trans (ends.extend?_eq (one.sound known _ rfl))
  · rintro ⟨line, others, one, two, rfl⟩
    exact ⟨line, none, _, one, .whole ends.firstByte_eq two, rfl⟩

section

variable {state : Option PartialChar} {front rest : List UInt8} {mark : UInt8} {line : List Char}
  (known : ∀ char ∈ state, char.Sound) (plain : ∀ byte ∈ front, ¬ EndsLine byte)

include known plain

/-- A block in which no line ends is read in front of the others. -/
theorem lineOf_cons_eq_ok_iff {following : List (List UInt8)} :
    lineOf state (front :: following) = .ok line ↔ ∃ chars middle more,
      Reads state front chars middle ∧ lineOf middle following = .ok more ∧ line = chars ++ more := by
  constructor
  · intro read
    by_cases readable : ∃ chars middle, Reads state front chars middle
    · obtain ⟨chars, middle, reads⟩ := readable
      rw [lineOf_of_unbroken _ reads (reads.unbroken known plain)] at read
      obtain ⟨more, followed, rfl⟩ := ok_of_map read
      exact ⟨chars, middle, more, reads, followed, rfl⟩
    · rw [lineOf_of_not_reads readable] at read
      exact nomatch read
  · rintro ⟨chars, middle, more, reads, followed, rfl⟩
    rw [lineOf_of_unbroken _ reads (reads.unbroken known plain), followed]
    rfl

/-- In the block with the line end, the line is read up to there, and what follows is read as far as the
line end asks for. -/
theorem lineOf_break_eq_ok_iff (ends : EndsLine mark) {back : List UInt8}
    {following : List (List UInt8)} :
    lineOf state ((front ++ mark :: back) :: following) = .ok line ↔
      Reads state front line none ∧ ∃ others after, Reads none back others after ∧
        (mark = 0x0D → others = [] → settle after following = .ok ()) := by
  by_cases readable : ∃ chars after, Reads state (front ++ mark :: back) chars after
  · obtain ⟨_, after, reads⟩ := readable
    obtain ⟨start, others, one, two, rfl⟩ := (reads_break_iff known ends).mp reads
    have unbroken := one.unbroken known plain
    have same : Reads state front line none ↔ start = line :=
      ⟨fun other => (one.unique other).1, fun same => same ▸ one⟩
    have behind : (∃ others after, Reads none back others after ∧
        (mark = 0x0D → others = [] → settle after following = .ok ())) ↔
          (mark = 0x0D → others = [] → settle after following = .ok ()) := by
      constructor
      · rintro ⟨_, _, other, settled⟩
        obtain ⟨rfl, rfl⟩ := other.unique two
        exact settled
      · exact fun settled => ⟨others, after, two, settled⟩
    rw [same, behind]
    by_cases last : mark = 0x0D ∧ others = []
    · obtain ⟨rfl, rfl⟩ := last
      rw [lineOf_of_return _ reads unbroken]
      cases settle after following <;> simp [Except.map]
    · have inside : ¬ (Char.ofNat mark.toNat = '\r' ∧ others = []) := by
        rintro ⟨carriage, empty⟩
        refine last ⟨?_, empty⟩
        rcases ends with rfl | rfl
        · exact absurd carriage (by decide)
        · rfl
      rw [lineOf_of_ends _ reads unbroken ends.isLineEnd_eq inside]
      simp only [Except.ok.injEq, iff_self_and]
      exact fun _ carriage empty => absurd ⟨carriage, empty⟩ last
  · rw [lineOf_of_not_reads readable]
    refine iff_of_false nofun ?_
    rintro ⟨reads, others, after, further, _⟩
    exact readable ⟨_, after, (reads_break_iff known ends).mpr ⟨line, others, reads, further, rfl⟩⟩

end

/-- The first line is read exactly where it is UTF-8 and what is read behind it is. -/
theorem lineOf_eq_ok_iff {state : Option PartialChar} {front rest : List UInt8} {mark : UInt8}
    {line : List Char} (known : ∀ char ∈ state, char.Sound) (plain : ∀ byte ∈ front, ¬ EndsLine byte)
    (ends : EndsLine mark) :
    lineOf state (blocks (front ++ mark :: rest)) = .ok line ↔
      Reads state front line none ∧ TextBehind mark front.length rest := by
  induction length : front.length using Nat.strongRecOn generalizing state front line with
  | ind count ih =>
    subst length
    rw [blocks_of_ne_nil (List.append_ne_nil_of_right_ne_nil _ (List.cons_ne_nil _ _))]
    by_cases far : blockSize ≤ front.length
    · have shorter : (front.drop blockSize).length = front.length - blockSize := List.length_drop
      have less : front.length - blockSize < front.length := by
        rw [blockSize] at far ⊢
        omega
      have before : ∀ byte ∈ front.take blockSize, ¬ EndsLine byte := fun byte listed =>
        plain byte (List.mem_of_mem_take listed)
      have behind : ∀ byte ∈ front.drop blockSize, ¬ EndsLine byte := fun byte listed =>
        plain byte (List.mem_of_mem_drop listed)
      have parts : Reads state front line none ↔ ∃ chars middle others,
          Reads state (front.take blockSize) chars middle ∧
            Reads middle (front.drop blockSize) others none ∧ line = chars ++ others := by
        rw [← reads_append_iff, List.take_append_drop]
      rw [List.take_append_of_le_length far, List.drop_append_of_le_length far,
        lineOf_cons_eq_ok_iff known before, parts]
      constructor
      · rintro ⟨chars, middle, more, reads, followed, rfl⟩
        obtain ⟨others, text⟩ := (ih _ less (reads.sound known) behind shorter).mp followed
        exact ⟨⟨chars, middle, more, reads, others, rfl⟩, (textBehind_sub far).mp text⟩
      · rintro ⟨⟨chars, middle, more, reads, others, rfl⟩, text⟩
        have followed := (ih _ less (reads.sound known) behind shorter).mpr
          ⟨others, (textBehind_sub far).mpr text⟩
        exact ⟨chars, middle, more, reads, followed, rfl⟩
    · obtain ⟨room, total⟩ : ∃ room, blockSize - front.length = room + 1 :=
        Nat.exists_eq_add_of_le' (Nat.sub_pos_of_lt (Nat.lt_of_not_le far))
      have place : blockSize - 1 - front.length % blockSize = room := by
        rw [Nat.mod_eq_of_lt (Nat.lt_of_not_le far)]
        omega
      have whole : front.length ≤ blockSize := Nat.le_of_not_le far
      rw [List.take_append, List.take_of_length_le whole, total, List.take_succ_cons,
        List.drop_append, List.drop_of_length_le whole, total, List.drop_succ_cons,
        List.nil_append, lineOf_break_eq_ok_iff known plain ends, TextBehind, place]
      refine and_congr_right fun _ => exists_congr fun chars => exists_congr fun after =>
        and_congr_right fun reads => imp_congr_right fun _ => ?_
      constructor
      · rintro settled rfl
        exact (settle_eq_ok_iff reads).mp (settled rfl)
      · rintro text rfl
        exact (settle_eq_ok_iff reads).mpr (text rfl)

/-! ## Two files -/

variable {host other : Host} {path : Path} {front rest otherRest : List UInt8} {mark : UInt8}

/-- The same bytes up to the first line end give the same line, or none, as long as what is read behind
it is UTF-8 in both cases or in neither. -/
theorem lineOf_congr (plain : ∀ byte ∈ front, ¬ EndsLine byte) (ends : EndsLine mark)
    (alike : TextBehind mark front.length rest ↔ TextBehind mark front.length otherRest) :
    lineOf none (blocks (front ++ mark :: rest)) =
      lineOf none (blocks (front ++ mark :: otherRest)) := by
  have same (line : List Char) : lineOf none (blocks (front ++ mark :: rest)) = .ok line ↔
      lineOf none (blocks (front ++ mark :: otherRest)) = .ok line := by
    rw [lineOf_eq_ok_iff sound_none plain ends, lineOf_eq_ok_iff sound_none plain ends, alike]
  cases first : lineOf none (blocks (front ++ mark :: rest)) with
  | ok line => exact ((same line).mp first).symm
  | error fault =>
    cases second : lineOf none (blocks (front ++ mark :: otherRest)) with
    | ok line => exact nomatch first.symm.trans ((same line).mpr second)
    | error otherFault => rw [lineOf_error first, lineOf_error second]

/-- A file whose first line cannot be read is refused, and nothing is logged. -/
theorem read_of_lineOf_error {bytes : List UInt8} {fault : CookieFault}
    (content : host.readFile path = .ok bytes) (failed : lineOf none (blocks bytes) = .error fault) :
    read host path = Traced.fail (invalid path fault) := by
  simp only [read, content, failed, Except.mapError, Traced.ofExcept_ok_bind]
  rfl

/-- A file where what is read behind the first line end is no UTF-8 is refused. -/
theorem read_of_not_textBehind {mode : Nat} (plain : ∀ byte ∈ front, ¬ EndsLine byte)
    (ends : EndsLine mark)
    (found : host.lookUp path = .ok (.file (front ++ mark :: rest) mode false))
    (broken : ¬ TextBehind mark front.length rest) :
    read host path = Traced.fail (.cookie ⟨path, .notText⟩) := by
  cases first : lineOf none (blocks (front ++ mark :: rest)) with
  | ok line => exact absurd ((lineOf_eq_ok_iff sound_none plain ends).mp first).2 broken
  | error fault =>
    rw [read_of_lineOf_error (readFile_of_lookUp found) first, lineOf_error first]
    rfl

/-- What follows the first line end of a cookie file matters only as far as it is read: two files with
the same bytes up to there and the same permission bits give the same credentials or the same error, and
the same records, if it is UTF-8 in both or in neither. Where it is not, the file is refused. -/
theorem read_same_first_line {mode : Nat} (plain : ∀ byte ∈ front, ¬ EndsLine byte)
    (ends : EndsLine mark)
    (found : host.lookUp path = .ok (.file (front ++ mark :: rest) mode false))
    (otherFound : other.lookUp path = .ok (.file (front ++ mark :: otherRest) mode false)) :
    ((TextBehind mark front.length rest ↔ TextBehind mark front.length otherRest) →
      read host path = read other path) ∧
    (¬ TextBehind mark front.length rest →
      (read host path).outcome = .error (.cookie ⟨path, .notText⟩)) ∧
    ∀ text, rest = encode text → TextBehind mark front.length rest := by
  refine ⟨fun alike => ?_, fun broken => ?_, ?_⟩
  · have same := lineOf_congr plain ends alike
    have content := readFile_of_lookUp found
    have otherContent := readFile_of_lookUp otherFound
    cases first : lineOf none (blocks (front ++ mark :: rest)) with
    | ok line =>
      rw [read_of_line content first found, read_of_line otherContent (same ▸ first) otherFound]
      rfl
    | error fault =>
      rw [read_of_lineOf_error content first, read_of_lineOf_error otherContent (same ▸ first)]
  · rw [read_of_not_textBehind plain ends found broken]
    rfl
  · rintro text rfl
    exact textBehind_encode mark front.length text

/-- A byte that begins no character is not UTF-8 behind a line end in the first block. -/
theorem not_textBehind_invalid {place : Nat} (near : place < blockSize - 1) :
    ¬ TextBehind mark place [0xFF] := by
  have inside : place < blockSize := Nat.lt_of_lt_of_le near (Nat.sub_le _ _)
  rintro ⟨chars, after, reads, _⟩
  rw [Nat.mod_eq_of_lt inside, List.take_of_length_le (Nat.sub_pos_of_lt near)] at reads
  cases reads with
  | whole first | start first => exact nomatch first

/-- Behind a carriage return, a line feed with a second line and nothing at all make no difference; a
byte that begins no character does. -/
theorem read_same_first_line_return :
    let path : Path := ⟨.single, [".cookie"]⟩
    let host (rest : List UInt8) :=
      hostOf (.file (encode "alice:pa:ss".toList ++ 0x0D :: rest) 0o640 false)
    read (host (encode "\nbob:other".toList)) path = read (host (encode "".toList)) path ∧
      (read (host [0xFF]) path).outcome = .error (.cookie ⟨path, .notText⟩) := by
  intro path host
  have plain : ∀ byte ∈ encode "alice:pa:ss".toList, ¬ EndsLine byte := by decide +kernel
  have ends : EndsLine 0x0D := .inr rfl
  have found (rest : List UInt8) := lookUp_hostOf
    (.file (encode "alice:pa:ss".toList ++ 0x0D :: rest) 0o640 false)
  obtain ⟨same, _, text⟩ := read_same_first_line plain ends (found (encode "\nbob:other".toList))
    (found (encode "".toList))
  have empty := textBehind_encode 0x0D (encode "alice:pa:ss".toList).length "".toList
  refine ⟨same (iff_of_true (text _ rfl) empty), ?_⟩
  exact (read_same_first_line plain ends (found [0xFF]) (found [])).2.1
    (not_textBehind_invalid (by decide))

/-- A byte that begins no character, behind the first line, makes a cookie file invalid that gives
credentials without it. -/
theorem read_depends_on_second_line :
    let path : Path := ⟨.single, [".cookie"]⟩
    let line := encode "alice:secret\n".toList
    (read (hostOf (.file line 0o600 false)) path).outcome = .ok ⟨"alice", "secret"⟩ ∧
      (read (hostOf (.file (line ++ [0xFF]) 0o600 false)) path).outcome =
        .error (.cookie ⟨path, .notText⟩) := by
  intro path line
  constructor
  · rw [read_encode (lookUp_hostOf _)]
    decide
  · have plain : ∀ byte ∈ encode "alice:secret".toList, ¬ EndsLine byte := by decide +kernel
    have found := lookUp_hostOf
      (.file (encode "alice:secret".toList ++ 0x0A :: [0xFF]) 0o600 false)
    rw [show line ++ [0xFF] = encode "alice:secret".toList ++ 0x0A :: [0xFF] from rfl,
      read_of_not_textBehind plain (.inl rfl) found (not_textBehind_invalid (by decide))]
    rfl

end CookieFile

end NodeClient
