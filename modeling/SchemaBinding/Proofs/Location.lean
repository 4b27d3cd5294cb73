import SchemaBinding.Location
import SchemaBinding.Proofs.Outcome
import SchemaBinding.Proofs.Path

/-!
# References from one location to another

A reference either names a location by itself, as an absolute path and a URL do, or it is a relative
path. One that names a location by itself leads there from everywhere. A relative path leads from a
file to what is below the parent of the file, so that two of them, one after the other, lead where
one leads that is put together of both.

## Main definitions

* `Location.StandsAlone`, `Location.IsRelative`: the two kinds of references
* `Location.beside`: one reference below the parent of another

## Main results

* `Url.isAbsolute_of_filePath?`: a URL names a file by an absolute path
* `Location.isRelative_iff`: a reference is of just one kind
* `Location.resolve_of_standsAlone`, `Location.resolve_of_isRelative`: where references lead
* `Location.resolve_beside`: references after one another
-/

namespace SchemaBinding

/-! ## URLs of files -/

namespace Url

theorem scheme_of_readHierarchical {scheme : String} {cs : List Char} {url : Url}
    (h : readHierarchical scheme cs = .ok url) : url.scheme = scheme := by
  unfold readHierarchical at h
  obtain ⟨⟨authority, rest⟩, -, h⟩ := bind_eq_ok_iff.mp h
  dsimp only at h
  split at h
  · split at h <;> cases h <;> rfl
  · split at h
    · cases h
      rfl
    · split at h <;> cases h <;> rfl

theorem scheme_of_readOther {scheme : String} {cs : List Char} {url : Url}
    (h : readOther scheme cs = .ok url) : url.scheme = scheme := by
  unfold readOther at h
  split at h
  · exact scheme_of_readHierarchical h
  · cases h
    rfl
  · cases h
    rfl

theorem dropEmptySegments_ne_nil (path : List String) : dropEmptySegments path ≠ [] := by
  unfold dropEmptySegments
  split
  · simp
  · next h => exact h

theorem exists_fileUrl_of_readFile {cs : List Char} {url : Url} (h : readFile cs = .ok url) :
    ∃ host cs', url = fileUrl host cs' := by
  unfold readFile readFileHost at h
  split at h
  · exact ⟨_, _, (Except.ok.inj h).symm⟩
  · split at h
    · exact ⟨_, _, (Except.ok.inj h).symm⟩
    · dsimp only at h
      split at h
      · exact ⟨_, _, (Except.ok.inj h).symm⟩
      · split at h
        · exact ⟨_, _, (Except.ok.inj h).symm⟩
        · obtain ⟨host, -, h⟩ := bind_eq_ok_iff.mp h
          split at h
          · exact ⟨_, _, (Except.ok.inj h).symm⟩
          · exact ⟨_, _, (Except.ok.inj h).symm⟩

/-- The path of a URL of the scheme `file` has a segment. -/
theorem exists_segments_of_parse {s : String} {url : Url} (h : parse s = .ok url)
    (hfile : url.scheme = "file") : ∃ items, url.path = .segments items ∧ items ≠ [] := by
  unfold parse read at h
  dsimp only at h
  split at h
  · next scheme rest _ =>
    split at h
    · obtain ⟨host, cs, rfl⟩ := exists_fileUrl_of_readFile h
      exact ⟨_, rfl, dropEmptySegments_ne_nil _⟩
    · next hscheme =>
      unfold readWithScheme at h
      split at h
      · exact absurd ((scheme_of_readHierarchical h).symm.trans hfile) hscheme
      · exact absurd ((scheme_of_readOther h).symm.trans hfile) hscheme
  · cases h

theorem head?_closeDrive {octets : Text.Octets} {b : UInt8} (h : octets.head? = some b) :
    (closeDrive octets).head? = some b := by
  unfold closeDrive
  split
  · split
    · rw [List.head?_append, h]
      rfl
    · exact h
  · exact h

/-- A URL names a file by an absolute path. -/
theorem isAbsolute_of_filePath? {s : String} {url : Url} {path : SchemaBinding.Path}
    (h : parse s = .ok url) (hfile : url.scheme = "file") (hpath : url.filePath? = some path) :
    path.isAbsolute = true := by
  obtain ⟨items, hitems, hne⟩ := exists_segments_of_parse h hfile
  unfold filePath? at hpath
  split at hpath
  · next items' _ hitems' =>
    obtain rfl : items' = items := Path.segments.inj (hitems'.symm.trans hitems)
    obtain ⟨item, more, rfl⟩ := List.exists_cons_of_ne_nil hne
    cases hpath
    have hslash : (closeDrive ((item :: more).flatMap fun item =>
        0x2F :: Percent.decode (Text.encode item))).head? = some 0x2F := head?_closeDrive rfl
    obtain ⟨octets, hoctets⟩ := List.head?_eq_some_iff.mp hslash
    rw [hoctets]
    rfl
  · cases hpath

end Url

namespace Location

/-! ## Kinds of references -/

/-- What is read as a URL. A scheme of one letter is none but the letter of a drive. -/
def IsUrl (reference : String) : Prop :=
  ∃ url, Url.parse reference = .ok url ∧ 1 < url.scheme.length

/-- A reference that names a location by itself: an absolute path or a URL. -/
def StandsAlone (reference : String) : Prop :=
  (Path.ofText reference).isAbsolute = true ∨ IsUrl reference

/-- A reference that is read as a relative path. -/
def IsRelative (reference : String) : Prop :=
  ∃ path, parse reference = .ok (.file path) ∧ path.isAbsolute = false

/-- The second reference below the parent of the first. -/
def beside (first second : String) : String :=
  ((Path.ofText first).parent.join (.ofText second)).text

variable {reference first second : String} {path : Path}

/-- What is no URL is the path that is written so. -/
theorem parse_of_not_isUrl (h : ¬ IsUrl reference) :
    parse reference = .ok (.file (.ofText reference)) := by
  unfold parse
  split
  · rfl
  · next url hurl =>
    unfold ofUrl?
    split
    · next hfile => exact absurd ⟨url, hurl, by rw [hfile]; decide⟩ h
    · split
      · next hscheme => exact absurd ⟨url, hurl, hscheme⟩ h
      · rfl

/-- A URL leads to no relative path. -/
theorem isAbsolute_of_isUrl (h : IsUrl reference) (hpath : parse reference = .ok (.file path)) :
    path.isAbsolute = true := by
  obtain ⟨url, hurl, hscheme⟩ := h
  unfold parse at hpath
  rw [hurl] at hpath
  dsimp only at hpath
  unfold ofUrl? at hpath
  split at hpath
  · next hfile =>
    split at hpath
    · next hfound =>
      cases hpath
      exact Url.isAbsolute_of_filePath? hurl hfile hfound
    · cases hpath
  · cases hpath

/-- A reference is of just one kind. -/
theorem isRelative_iff : IsRelative reference ↔ ¬ StandsAlone reference := by
  constructor
  · rintro ⟨path, hpath, hrelative⟩ (habsolute | hurl)
    · by_cases hurl : IsUrl reference
      · rw [isAbsolute_of_isUrl hurl hpath] at hrelative
        cases hrelative
      · rw [parse_of_not_isUrl hurl] at hpath
        cases hpath
        rw [habsolute] at hrelative
        cases hrelative
    · rw [isAbsolute_of_isUrl hurl hpath] at hrelative
      cases hrelative
  · intro h
    obtain ⟨habsolute, hurl⟩ := not_or.mp h
    exact ⟨_, parse_of_not_isUrl hurl, by simpa using habsolute⟩

theorem IsRelative.parse_eq (h : IsRelative reference) :
    parse reference = .ok (.file (.ofText reference)) :=
  parse_of_not_isUrl (not_or.mp (isRelative_iff.mp h)).2

theorem IsRelative.isAbsolute_eq (h : IsRelative reference) :
    (Path.ofText reference).isAbsolute = false := by
  simpa using (not_or.mp (isRelative_iff.mp h)).1

/-! ## Where references lead -/

theorem resolve_of_isRelative (h : IsRelative reference) (base : Path) :
    resolve (.file base) reference = .ok (.file (base.parent.join (.ofText reference))) := by
  unfold resolve
  rw [h.parse_eq]
  show (if (Path.ofText reference).isAbsolute then _ else _) = _
  rw [h.isAbsolute_eq]
  rfl

/-- What names a location by itself leads there from everywhere. -/
theorem resolve_of_standsAlone (h : StandsAlone reference) (base : Location) :
    base.resolve reference = parse reference := by
  have hrelative : ¬ IsRelative reference := fun hrelative => isRelative_iff.mp hrelative h
  unfold resolve
  cases hfound : parse reference with
  | error fault => rfl
  | ok found =>
    cases found with
    | file path =>
      have habsolute : path.isAbsolute = true := by
        by_contra hpath
        exact hrelative ⟨path, hfound, by simpa using hpath⟩
      show (if path.isAbsolute then _ else _) = _
      rw [habsolute]
      rfl
    | remote url => rfl
    | inMemory content => rfl

/-- What is put together of two texts is a text. -/
theorem ofText_beside (first second : String) :
    Path.ofText (beside first second) = (Path.ofText first).parent.join (.ofText second) := by
  apply Path.ofText_text
  intro h
  rcases Path.mem_join h with h | h | h
  · exact Path.none_notMem_ofText first (Path.mem_of_mem_parent (by decide) h)
  · cases h
  · exact Path.none_notMem_ofText second h

/-- Relative references made one after the other lead where one leads that is put together of both,
and absolute paths and URLs lead from everywhere to the same place. -/
theorem resolve_beside :
    (∀ (base : Path) (first second : String), IsRelative first → IsRelative second →
      IsRelative (beside first second) → (Path.ofText first).EndsInName →
      ∃ between reached direct : Path,
        resolve (.file base) first = .ok (.file between) ∧
        resolve (.file between) second = .ok (.file reached) ∧
        resolve (.file base) (beside first second) = .ok (.file direct) ∧
        reached.Same direct) ∧
    ∀ reference, StandsAlone reference → ∀ base : Location,
      base.resolve reference = parse reference := by
  refine ⟨fun base first second hfirst hsecond hbeside hname => ?_,
    fun reference h base => resolve_of_standsAlone h base⟩
  refine ⟨_, _, _, resolve_of_isRelative hfirst base, resolve_of_isRelative hsecond _,
    resolve_of_isRelative hbeside base, ?_⟩
  rw [ofText_beside]
  exact Path.same_join_join base.parent hfirst.isAbsolute_eq hsecond.isAbsolute_eq hname

/-- By way of a directory beside that of the file, and from anywhere. -/
theorem resolve_beside_common :
    (∃ between reached direct : Path,
      resolve (.file (.ofText "/data/schemas//main.xsd")) "../common//./types.xsd" =
        .ok (.file between) ∧
      resolve (.file between) "./lists/../base.xsd" = .ok (.file reached) ∧
      resolve (.file (.ofText "/data/schemas//main.xsd")) "../common/./lists/../base.xsd" =
        .ok (.file direct) ∧
      reached.Same direct) ∧
    (∀ base : Location, base.resolve "/other/types.xsd" = parse "/other/types.xsd") ∧
    ∀ base : Location, base.resolve "file:///other/types.xsd" =
      parse "file:///other/types.xsd" :=
  ⟨resolve_beside.1 (.ofText "/data/schemas//main.xsd") "../common//./types.xsd"
      "./lists/../base.xsd" ⟨_, rfl, by decide⟩ ⟨_, rfl, by decide⟩ ⟨_, rfl, by decide⟩
      ⟨_, rfl, by decide, by decide⟩,
    resolve_beside.2 _ (.inl (by decide)), resolve_beside.2 _ (.inr ⟨_, rfl, by decide⟩)⟩

end Location

end SchemaBinding
