import NodeClient.Host
import NodeClient.Proofs.Text.Cut

/-! # Paths and their texts

The names of a path that was read from a text are there, are no single points and hold no slash. A path
of such names is read back from its own text. A home directory in place of a tilde keeps the names so, and
where it is absolute it leaves no tilde in front, so that a path read from the text of an expanded one is
not expanded any further.
-/

namespace NodeClient

namespace Path

open Text

/-- A name that counts: it is there, it is no single point, and it holds no slash. -/
structure IsName (name : String) : Prop where
  nonempty : name.toList ≠ []
  undotted : name.toList ≠ ['.']
  unslashed : '/' ∉ name.toList

/-- A path of names that count. -/
def IsPlain (path : Path) : Prop := ∀ name ∈ path.names, IsName name

/-- A path that does not start in the working directory. -/
def IsAbsolute (path : Path) : Prop := path.root ≠ .relative

instance (path : Path) : Decidable path.IsAbsolute := inferInstanceAs (Decidable (_ ≠ _))

/-- The tilde in front of a path, alone or with the name of an account behind it. -/
def tilde? (path : Path) : Option String :=
  match path.root, path.names with
  | .relative, first :: _ => if first.toList.head? = some '~' then some first else none
  | _, _ => none

theorem isPlain_ofString (text : String) : (ofString text).IsPlain := by
  intro name listed
  obtain ⟨part, kept, rfl⟩ := List.mem_map.mp listed
  obtain ⟨split, counts⟩ := List.mem_filter.mp kept
  have unslashed := notMem_of_mem_splitAt split
  simp only [Bool.and_eq_true, Bool.not_eq_true', List.isEmpty_eq_false_iff, decide_eq_true_eq]
    at counts
  rw [← String.toList_ofList (l := part)] at counts unslashed
  exact ⟨counts.1, counts.2, unslashed⟩

/-- A slash in front adds no name. -/
theorem namesOf_slash (text : List Char) : namesOf ('/' :: text) = namesOf text := by
  rw [namesOf, splitAt, if_pos rfl]
  rfl

/-- Names with slashes between them, as a text. -/
def joined (names : List String) : List Char := ['/'].intercalate (names.map String.toList)

section

variable {names : List String} (counts : ∀ name ∈ names, IsName name)

include counts

/-- Names that count are found between the slashes that were put there. -/
theorem namesOf_joined : namesOf (joined names) = names := by
  cases names with
  | nil => rfl
  | cons first more =>
    have unslashed : ∀ part ∈ (first :: more).map String.toList, '/' ∉ part :=
      List.forall_mem_map.mpr fun name listed => (counts name listed).unslashed
    have kept : ∀ part ∈ (first :: more).map String.toList,
        (!part.isEmpty && part ≠ ['.']) = true := by
      refine List.forall_mem_map.mpr fun name listed => ?_
      simp [(counts name listed).nonempty, (counts name listed).undotted]
    rw [namesOf, joined, splitAt_intercalate (by simp) unslashed, List.filter_eq_self.mpr kept]
    simp [Function.comp_def]

/-- Names that count begin with no slash. -/
theorem takeWhile_joined : (joined names).takeWhile (· = '/') = [] := by
  cases names with
  | nil => rfl
  | cons first more =>
    have name := counts first List.mem_cons_self
    obtain ⟨c, rest, spelled⟩ := List.exists_cons_of_ne_nil name.nonempty
    have begins : c ≠ '/' := by
      rintro rfl
      exact name.unslashed (spelled ▸ List.mem_cons_self)
    cases more <;> simp [joined, spelled, begins]

end

/-- A path of names that count is read back from its text. -/
theorem ofString_text {path : Path} (plain : path.IsPlain) : ofString path.text = path := by
  obtain ⟨root, names⟩ := path
  have named := namesOf_joined plain
  -- The names begin with no slash, so the slashes in front are those of the root alone.
  have begins := takeWhile_joined plain
  cases root with
  | relative =>
    cases names with
    | nil => rfl
    | cons first more =>
      have spelled : (text ⟨.relative, first :: more⟩).toList = joined (first :: more) := by
        simp [text, joined]
      rw [ofString, spelled, rootOf, begins, named]
      rfl
  | single =>
    have spelled : (text ⟨.single, names⟩).toList = '/' :: joined names := by
      simp [text, joined]
    rw [ofString, spelled, rootOf, namesOf_slash, named]
    simp [begins]
  | double =>
    have spelled : (text ⟨.double, names⟩).toList = '/' :: '/' :: joined names := by
      simp [text, joined]
    rw [ofString, spelled, rootOf, namesOf_slash, namesOf_slash, named]
    simp [begins]

theorem tilde?_eq_some_iff {path : Path} {tilde : String} :
    path.tilde? = some tilde ↔
      (∃ rest, path = ⟨.relative, tilde :: rest⟩) ∧ tilde.toList.head? = some '~' := by
  constructor
  · intro found
    obtain ⟨root, names⟩ := path
    dsimp only [tilde?] at found
    split at found
    · next first rest =>
      split_ifs at found with marked
      obtain rfl := Option.some.inj found
      exact ⟨⟨rest, rfl⟩, marked⟩
    · exact nomatch found
  · rintro ⟨⟨rest, rfl⟩, marked⟩
    exact if_pos marked

theorem tilde?_of_isAbsolute {path : Path} (absolute : path.IsAbsolute) : path.tilde? = none := by
  obtain ⟨root, names⟩ := path
  cases root with
  | relative => exact absurd rfl absolute
  | single => rfl
  | double => rfl

end Path

namespace Host

variable {host : Host} {path expanded : Path}

/-- The home directory of the tilde in front of a path is absolute, if there is a tilde and its home is
known. -/
def HomeIsAbsolute (host : Host) (path : Path) : Prop :=
  ∀ tilde home, path.tilde? = some tilde → host.homeOf? tilde = some home →
    (Path.ofString home).IsAbsolute

/-- A path without a tilde in front stays as it is. -/
theorem expand_of_tilde?_eq_none (bare : path.tilde? = none) : host.expand path = .ok path := by
  obtain ⟨root, names⟩ := path
  cases root with
  | relative =>
    cases names with
    | nil => rfl
    | cons first rest =>
      simp only [Path.tilde?] at bare
      split_ifs at bare with marked
      rw [expand]
      exact if_pos marked
  | single => rfl
  | double => rfl

/-- A path without a tilde in front is kept; in any other, a known home directory stands in place of the
tilde. -/
theorem expand_cases (expands : host.expand path = .ok expanded) :
    (path.tilde? = none ∧ expanded = path) ∨
    ∃ tilde home, path.tilde? = some tilde ∧ host.homeOf? tilde = some home ∧
      expanded = ⟨(Path.ofString home).root, (Path.ofString home).names ++ path.names.tail⟩ := by
  cases bare : path.tilde? with
  | none =>
    rw [expand_of_tilde?_eq_none bare] at expands
    exact .inl ⟨rfl, (Except.ok.inj expands).symm⟩
  | some tilde =>
    obtain ⟨⟨rest, rfl⟩, marked⟩ := Path.tilde?_eq_some_iff.mp bare
    rw [expand] at expands
    dsimp only at expands
    rw [if_neg (not_not_intro marked)] at expands
    split_ifs at expands with null
    split at expands
    · exact nomatch expands
    · next home known =>
      split_ifs at expands with unknown
      exact .inr ⟨tilde, home, rfl, known, (Except.ok.inj expands).symm⟩

/-- A home directory in place of a tilde adds names that count only. -/
theorem isPlain_of_expand (plain : path.IsPlain) (expands : host.expand path = .ok expanded) :
    expanded.IsPlain := by
  rcases expand_cases expands with ⟨_, rfl⟩ | ⟨tilde, home, _, _, rfl⟩
  · exact plain
  · intro name listed
    rcases List.mem_append.mp listed with before | behind
    · exact Path.isPlain_ofString home name before
    · exact plain name (List.mem_of_mem_tail behind)

/-- An absolute home directory leaves no tilde in front. -/
theorem tilde?_of_expand (absolute : host.HomeIsAbsolute path)
    (expands : host.expand path = .ok expanded) : expanded.tilde? = none := by
  rcases expand_cases expands with ⟨bare, rfl⟩ | ⟨tilde, home, marked, known, rfl⟩
  · exact bare
  · exact Path.tilde?_of_isAbsolute (absolute tilde home marked known)

/-- The path that a text leads to is led to by its own text. -/
theorem expand_text {text : String} (absolute : host.HomeIsAbsolute (Path.ofString text))
    (expands : host.expand (Path.ofString text) = .ok expanded) :
    host.expand (Path.ofString expanded.text) = .ok expanded := by
  rw [Path.ofString_text (isPlain_of_expand (Path.isPlain_ofString text) expands)]
  exact expand_of_tilde?_eq_none (tilde?_of_expand absolute expands)

/-- Behind a home directory that is the working directory, a name with a tilde comes to the front. -/
example :
    let host : Host :=
      { nodes := [], workingDirectory := [], environment := [("HOME", ".")], accounts := [] }
    host.expand (Path.ofString "~/~") = .ok ⟨.relative, ["~"]⟩ ∧
      host.expand ⟨.relative, ["~"]⟩ = .ok ⟨.relative, []⟩ := by
  decide +kernel

end Host

end NodeClient
