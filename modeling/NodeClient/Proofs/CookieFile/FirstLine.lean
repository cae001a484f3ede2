import NodeClient.CookieFile
import NodeClient.Log
import NodeClient.Proofs.Text.Cut
import NodeClient.Proofs.Text.Utf8
import Mathlib.Data.List.TakeWhile

/-! # Credentials in the first line

A text, read block by block, gives its first line, which is cut at its first colon. The line is all that
the credentials depend on: neither what follows it nor the permission bits of the file have a part in
them.
-/

namespace NodeClient

namespace Text

/-- The text up to its first line end, or all of it. -/
def firstLine (text : List Char) : List Char := text.takeWhile fun c => !isLineEnd c

/-- A text without a line end. -/
def Unbroken (text : List Char) : Prop := ∀ c ∈ text, isLineEnd c = false

variable {line rest text : List Char} {c : Char}

theorem firstLine_append (unbroken : Unbroken line) : firstLine (line ++ rest) = line ++ firstLine rest :=
  List.takeWhile_append_of_pos fun c listed => by rw [unbroken c listed]; rfl

theorem firstLine_of_unbroken (unbroken : Unbroken text) : firstLine text = text :=
  List.takeWhile_eq_self_iff.mpr fun c listed => by rw [unbroken c listed]; rfl

theorem firstLine_append_cons (unbroken : Unbroken line) (ends : isLineEnd c = true) :
    firstLine (line ++ c :: rest) = line := by
  rw [firstLine_append unbroken, firstLine, List.takeWhile_cons_of_neg (by simpa using ends),
    List.append_nil]

/-- A text is one line, or goes on behind its first one with a line end. -/
theorem unbroken_or_exists (text : List Char) :
    Unbroken text ∨ ∃ line c rest, text = line ++ c :: rest ∧ Unbroken line ∧ isLineEnd c = true := by
  induction text with
  | nil => exact .inl (List.forall_mem_nil _)
  | cons first more ih =>
    cases ends : isLineEnd first with
    | true => exact .inr ⟨[], first, more, rfl, List.forall_mem_nil _, ends⟩
    | false =>
      rcases ih with unbroken | ⟨line, c, rest, rfl, unbroken, broken⟩
      · exact .inl (List.forall_mem_cons.mpr ⟨ends, unbroken⟩)
      · exact .inr ⟨first :: line, c, rest, rfl, List.forall_mem_cons.mpr ⟨ends, unbroken⟩, broken⟩

end Text

namespace CookieFile

open Text

/-! ## Reading block by block -/

theorem blocks_nil : blocks [] = [] := by
  rw [blocks]
  rfl

theorem blocks_of_ne_nil {bytes : List UInt8} (nonempty : bytes ≠ []) :
    blocks bytes = bytes.take blockSize :: blocks (bytes.drop blockSize) := by
  rw [blocks, if_neg (by simpa using nonempty)]

section

variable {state middle : Option PartialChar} {block : List UInt8} (rest : List (List UInt8))
  {chars line others : List Char} {c : Char}

/-- A block without a line end belongs to the line as a whole. -/
theorem lineOf_of_unbroken (reads : Reads state block line middle) (unbroken : Unbroken line) :
    lineOf state (block :: rest) = (lineOf middle rest).map (line ++ ·) := by
  have taken : (line.takeWhile fun c => !isLineEnd c) = line := firstLine_of_unbroken unbroken
  have dropped : (line.dropWhile fun c => !isLineEnd c) = [] :=
    List.dropWhile_eq_nil_iff.mpr fun c listed => by rw [unbroken c listed]; rfl
  simp only [lineOf, decodeFrom_eq_ok_iff.mpr reads, taken, dropped]

private theorem dropWhile_of_ends (unbroken : Unbroken line) (ends : isLineEnd c = true) :
    ((line ++ c :: others).dropWhile fun c => !isLineEnd c) = c :: others := by
  rw [List.dropWhile_append_of_pos fun c listed => by rw [unbroken c listed]; rfl,
    List.dropWhile_cons_of_neg (by simpa using ends)]

/-- A carriage return at the end of a block ends the line once more was read. -/
theorem lineOf_of_return (reads : Reads state block (line ++ ['\r']) middle)
    (unbroken : Unbroken line) :
    lineOf state (block :: rest) = (settle middle rest).map fun _ => line := by
  have ends : isLineEnd '\r' = true := rfl
  have taken : ((line ++ ['\r']).takeWhile fun c => !isLineEnd c) = line :=
    firstLine_append_cons unbroken ends
  simp only [lineOf, decodeFrom_eq_ok_iff.mpr reads, taken, dropWhile_of_ends unbroken ends]

/-- Every other line end ends the line at once. -/
theorem lineOf_of_ends (reads : Reads state block (line ++ c :: others) middle)
    (unbroken : Unbroken line) (ends : isLineEnd c = true) (inside : ¬ (c = '\r' ∧ others = [])) :
    lineOf state (block :: rest) = .ok line := by
  have taken : ((line ++ c :: others).takeWhile fun c => !isLineEnd c) = line :=
    firstLine_append_cons unbroken ends
  simp only [lineOf, decodeFrom_eq_ok_iff.mpr reads, taken, dropWhile_of_ends unbroken ends]
  split
  · contradiction
  · next same => exact absurd (List.cons.inj same) inside
  · rfl

end

section

variable {state : Option PartialChar} {bytes : List UInt8} {chars : List Char}

/-- Behind a carriage return a text is read on without a fault. -/
theorem settle_of_reads (reads : Reads state bytes chars none) : settle state (blocks bytes) = .ok () := by
  fun_induction blocks bytes generalizing state chars with
  | case1 bytes empty =>
    obtain rfl := List.isEmpty_iff.mp empty
    cases reads
    rfl
  | case2 bytes _ ih =>
    rw [← List.take_append_drop blockSize bytes] at reads
    obtain ⟨before, middle, others, one, two, rfl⟩ := reads_append_iff.mp reads
    rw [settle, decodeFrom_eq_ok_iff.mpr one]
    cases before with
    | nil => exact ih two
    | cons c more => rfl

/-- The first line of a text is read. -/
theorem lineOf_of_reads (reads : Reads state bytes chars none) :
    lineOf state (blocks bytes) = .ok (firstLine chars) := by
  fun_induction blocks bytes generalizing state chars with
  | case1 bytes empty =>
    obtain rfl := List.isEmpty_iff.mp empty
    cases reads
    rfl
  | case2 bytes _ ih =>
    rw [← List.take_append_drop blockSize bytes] at reads
    obtain ⟨before, middle, others, one, two, rfl⟩ := reads_append_iff.mp reads
    rcases unbroken_or_exists before with unbroken | ⟨line, c, more, rfl, unbroken, ends⟩
    · rw [lineOf_of_unbroken _ one unbroken, ih two, firstLine_append unbroken]
      rfl
    · rw [List.append_assoc, List.cons_append, firstLine_append_cons unbroken ends]
      by_cases last : c = '\r' ∧ more = []
      · obtain ⟨rfl, rfl⟩ := last
        rw [lineOf_of_return _ one unbroken, settle_of_reads two]
        rfl
      · exact lineOf_of_ends _ one unbroken ends last

end

/-! ## Cutting the line -/

variable {line : List Char} {user password : String}

/-- A line gives the credentials that spell it with a colon between them, the first one. -/
theorem split_eq_ok_iff :
    split line = .ok ⟨user, password⟩ ↔
      ':' ∉ user.toList ∧ user.toList ++ ':' :: password.toList = line := by
  constructor
  · intro given
    rw [split] at given
    split_ifs at given
    cases cut : cutFirst? [':'] line with
    | none => simp [cut] at given
    | some parts =>
      obtain ⟨before, after⟩ := parts
      simp only [cut, Except.ok.injEq, Credentials.mk.injEq] at given
      obtain ⟨rfl, rfl⟩ := given
      obtain ⟨rfl, free⟩ := cutFirst?_singleton_eq_some_iff.mp cut
      simpa only [String.toList_ofList, and_true] using free
  · rintro ⟨free, rfl⟩
    rw [split, if_neg (by simp), cutFirst?_singleton_append free]
    simp only [String.ofList_toList]

theorem split_of_notMem (absent : ':' ∉ line) :
    split line = .error (if line.isEmpty then .empty else .noSeparator) := by
  rw [split]
  split_ifs
  · rfl
  · rw [cutFirst?_singleton_eq_none_iff.mpr absent]

theorem exists_of_mem (listed : ':' ∈ line) : ∃ credentials, split line = .ok credentials := by
  obtain ⟨before, after, rfl, free⟩ := List.eq_append_cons_of_mem listed
  refine ⟨⟨String.ofList before, String.ofList after⟩, split_eq_ok_iff.mpr ?_⟩
  simpa only [String.toList_ofList, and_true] using free

/-! ## Reading the file -/

variable {host : Host} {path : Path} {credentials : Credentials}

/-- Of a file whose first line is read only the permission bits are logged. -/
theorem read_of_line {bytes : List UInt8} {line : List Char} {node : FileNode}
    (content : host.readFile path = .ok bytes) (first : lineOf none (blocks bytes) = .ok line)
    (found : host.lookUp path = .ok node) :
    read host path = ⟨(checkMode path node.mode : Traced AccessError Bool).records,
      (split line).mapError (invalid path)⟩ := by
  simp only [read, content, first, Except.mapError, Traced.ofExcept_ok_bind, checkPermissions, found,
    checkMode]
  split <;> rfl

/-- What is logged of a cookie file that gives credentials depends on its path and its permission
bits alone. -/
theorem exists_read_records (given : (read host path).outcome = .ok credentials) :
    ∃ node, host.lookUp path = .ok node ∧
      (read host path).records = (checkMode path node.mode : Traced AccessError Bool).records := by
  cases content : host.readFile path with
  | error error =>
    simp only [read, content, Except.mapError] at given
    exact nomatch given
  | ok bytes =>
    cases first : lineOf none (blocks bytes) with
    | error fault =>
      simp only [read, content, first, Except.mapError, Traced.ofExcept_ok_bind] at given
      exact nomatch given
    | ok line =>
      cases found : host.lookUp path with
      | error error =>
        rw [Host.readFile, found] at content
        exact nomatch content
      | ok node => exact ⟨node, rfl, congrArg Traced.records (read_of_line content first found)⟩

/-- A file that can be opened holds its content. -/
theorem readFile_of_lookUp {content : List UInt8} {mode : Nat}
    (found : host.lookUp path = .ok (.file content mode false)) :
    host.readFile path = .ok content := by
  rw [Host.readFile, found]
  rfl

theorem read_encode {text : List Char} {mode : Nat}
    (found : host.lookUp path = .ok (.file (encode text) mode false)) :
    read host path = ⟨(checkMode path mode : Traced AccessError Bool).records,
      (split (firstLine text)).mapError (invalid path)⟩ :=
  read_of_line (readFile_of_lookUp found) (lineOf_of_reads (reads_encode text)) found

/-- A cookie file that is text gives the credentials that its first line spells with a colon between
them, the first one in the line, and is invalid where the line has no colon. The permission bits
decide only whether a warning is logged. -/
theorem read_first_line {host : Host} {path : Path} {text : List Char} {mode : Nat}
    (found : host.lookUp path = .ok (.file (encode text) mode false)) :
    (∀ user password, (read host path).outcome = .ok ⟨user, password⟩ ↔
      ':' ∉ user.toList ∧ user.toList ++ ':' :: password.toList = firstLine text) ∧
    (':' ∈ firstLine text → ∃ credentials, (read host path).outcome = .ok credentials) ∧
    (':' ∉ firstLine text → (read host path).outcome = .error (.cookie
      ⟨path, if (firstLine text).isEmpty then .empty else .noSeparator⟩)) ∧
    (isPrivate mode = true → (read host path).records = []) ∧
    (isPrivate mode = false →
      ∃ warning, (read host path).records = [⟨.warning, .credentials, warning⟩]) ∧
    ∀ (other : Host) (otherMode : Nat),
      other.lookUp path = .ok (.file (encode text) otherMode false) →
        (read other path).outcome = (read host path).outcome := by
  rw [read_encode found]
  refine ⟨fun user password => ?_, fun listed => ?_, fun absent => ?_, fun safe => ?_,
    fun shared => ?_, fun other otherMode otherFound => ?_⟩
  · rw [← split_eq_ok_iff]
    cases split (firstLine text) <;> simp [Except.mapError]
  · obtain ⟨credentials, given⟩ := exists_of_mem listed
    exact ⟨credentials, by rw [given]; rfl⟩
  · rw [split_of_notMem absent]
    rfl
  · rw [checkMode, if_pos safe]
    rfl
  · rw [checkMode, if_neg (by rw [shared]; exact Bool.false_ne_true)]
    exact ⟨_, rfl⟩
  · rw [read_encode otherFound]

def hostOf (node : FileNode) : Host := ⟨[([".cookie"], node)], [], [], [], none⟩

theorem lookUp_hostOf (node : FileNode) :
    (hostOf node).lookUp ⟨.single, [".cookie"]⟩ = .ok node := rfl

/-- A first line that a carriage return and a line feed end, with colons in the password and a line
separator that ends no line, in a file that others may read. -/
theorem read_first_line_shared :
    let text := "alice:pa:s\u2028s\r\nbob:other\n".toList
    let host := hostOf (.file (encode text) 0o644 false)
    host.lookUp ⟨.single, [".cookie"]⟩ = .ok (.file (encode text) 0o644 false) ∧
      (read host ⟨.single, [".cookie"]⟩).outcome = .ok ⟨"alice", "pa:s\u2028s"⟩ ∧
      ∃ warning, (read host ⟨.single, [".cookie"]⟩).records =
        [⟨.warning, .credentials, warning⟩] := by
  intro text host
  have found := lookUp_hostOf (.file (encode text) 0o644 false)
  obtain ⟨gives, _, _, _, warns, _⟩ := read_first_line found
  exact ⟨found, (gives "alice" "pa:s\u2028s").mpr (by decide), warns rfl⟩

end CookieFile

end NodeClient
