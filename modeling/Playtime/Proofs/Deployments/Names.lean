import Playtime.Configuration
import Playtime.Proofs.FlatFile.Mirroring

namespace Playtime

def IsPlainStem (stem : String) : Prop := ∀ c ∈ stem.toList, c.isLower = true ∨ c.isDigit = true ∨ c = '_'

-- By name, as all characters might be gone through otherwise.
instance (stem : String) : Decidable (IsPlainStem stem) := List.decidableBAll _ stem.toList

theorem code_of_plain {stem : String} (plain : IsPlainStem stem) {c : Char} (member : c ∈ stem.toList) :
    48 ≤ c.toNat ∧ c.toNat ≤ 57 ∨ c.toNat = 95 ∨ 97 ≤ c.toNat ∧ c.toNat ≤ 122 := by
  rcases plain c member with lower | digit | rfl
  · have ⟨first, last⟩ := Bool.and_eq_true_iff.mp lower
    have : 97 ≤ c.toNat := of_decide_eq_true first
    have : c.toNat ≤ 122 := of_decide_eq_true last
    omega
  · have ⟨first, last⟩ := Bool.and_eq_true_iff.mp digit
    have : 48 ≤ c.toNat := of_decide_eq_true first
    have : c.toNat ≤ 57 := of_decide_eq_true last
    omega
  · decide

def EndApart (endings : List String) : Prop :=
  ∀ first ∈ endings, ∀ second ∈ endings, first.toList <:+ second.toList → first = second

instance (endings : List String) : Decidable (EndApart endings) :=
  inferInstanceAs (Decidable (∀ first ∈ endings, ∀ second ∈ endings, first.toList <:+ second.toList → first = second))

theorem EndApart.stem_eq {endings : List String} (apart : EndApart endings) {stem other first second : String}
    (member : first ∈ endings) (memberToo : second ∈ endings) (same : stem ++ first = other ++ second) :
    stem = other := by
  have texts := congrArg String.toList same
  rw [String.toList_append, String.toList_append] at texts
  have ends : second.toList <:+ stem.toList ++ first.toList := texts ▸ List.suffix_append other.toList second.toList
  have equal : first = second := by
    rcases List.suffix_or_suffix_of_suffix (List.suffix_append stem.toList first.toList) ends with inside | inside
    · exact apart first member second memberToo inside
    · exact (apart second memberToo first member inside).symm
  subst equal
  exact String.toList_injective (List.append_cancel_right texts)

def fileEndings : List String := ["names.json", "names.json.tmp", "time.json", "time.json.tmp"]

theorem endApart_fileEndings : EndApart fileEndings := by decide

def fileNames (stem : String) : List String := fileEndings.map (stem ++ ·)

theorem mem_fileNames (stem : String) :
    stem ++ "names.json" ∈ fileNames stem ∧ stem ++ "time.json" ∈ fileNames stem := by
  simp [fileNames, fileEndings]

theorem fileNames_disjoint {stem other : String} (differs : stem ≠ other) :
    (fileNames stem).Disjoint (fileNames other) := by
  intro name member memberToo
  obtain ⟨first, inside, rfl⟩ := List.mem_map.mp member
  obtain ⟨second, insideToo, same⟩ := List.mem_map.mp memberToo
  exact differs (endApart_fileEndings.stem_eq insideToo inside same).symm

theorem long_of_fileName {stem name : String} (member : name ∈ fileNames stem) : 2 < name.length := by
  obtain ⟨ending, inside, rfl⟩ := List.mem_map.mp member
  have long : ∀ ending ∈ fileEndings, 2 < ending.length := by decide
  have := long ending inside
  rw [String.length_append]
  omega

theorem fileNames_ne_up {stem name : String} (member : name ∈ fileNames stem) : name ≠ ".." := by
  rintro rfl
  exact absurd (long_of_fileName member) (by decide)

namespace Path

theorem split_ne_nil (text : List Char) : split text ≠ [] := by
  cases text with
  | nil => simp [split]
  | cons c rest =>
    rw [split]
    split
    · simp
    · split <;> simp

theorem split_slash (front : List Char) {tail : List Char} (plain : '/' ∉ tail) :
    split (front ++ '/' :: tail) = split front ++ [tail] := by
  induction front with
  | nil => simp [split, split_of_not_mem plain]
  | cons c rest ih =>
    rw [List.cons_append, split, ih, split]
    cases parts : split rest with
    | nil => exact absurd parts (split_ne_nil rest)
    | cons first others => by_cases slash : c = '/' <;> simp [slash]

theorem ofText_slash (front : String) {back : String} (plain : '/' ∉ back.toList) :
    ofText (front ++ "/" ++ back) = ofText front ++ ofText back := by
  have characters : (front ++ "/" ++ back).toList = front.toList ++ '/' :: back.toList := by simp
  rw [ofText, characters, split_slash _ plain, List.map_append, List.filter_append, ofText, ofText,
    split_of_not_mem plain]

theorem ofText_of_plain {name : String} (plain : '/' ∉ name.toList) (long : 2 < name.length) :
    ofText name = [name] := by
  have stays : name ≠ "" ∧ name ≠ "." := by
    constructor
    · rintro rfl
      exact absurd long (by decide)
    · rintro rfl
      exact absurd long (by decide)
  rw [ofText, split_of_not_mem plain, List.map_singleton, String.ofList_toList]
  exact List.filter_cons_of_pos (decide_eq_true stays)

theorem ofText_join_plain (directory : String) {name : String} (plain : '/' ∉ name.toList) (long : 2 < name.length) :
    ofText (join directory name) = ofText directory ++ [name] := by
  have relative : name.toList.head? ≠ some '/' := fun slash => plain (List.mem_of_head? slash)
  rw [join, if_neg relative, ← ofText_of_plain plain long]
  split
  · next closed =>
    rcases Bool.or_eq_true_iff.mp closed with empty | slash
    · rw [of_decide_eq_true empty, String.empty_append]
      rfl
    · obtain ⟨front, same⟩ := List.getLast?_eq_some_iff.mp (of_decide_eq_true slash)
      have closing : directory = String.ofList front ++ "/" ++ "" := by
        apply String.toList_injective
        rw [same]
        simp
      rw [closing, ofText_slash _ List.not_mem_nil, String.append_empty, ofText_slash _ plain]
      exact congrArg (· ++ ofText name) (List.append_nil _).symm
  · exact ofText_slash directory plain

end Path

theorem fileNames_clean {stem name : String} (plain : IsPlainStem stem) (member : name ∈ fileNames stem) :
    '/' ∉ name.toList ∧ Path.isPath [name] = true := by
  obtain ⟨ending, inside, rfl⟩ := List.mem_map.mp member
  have without (c : Char) (strange : c.isLower = false ∧ c.isDigit = false ∧ c ≠ '_')
      (absent : ∀ ending ∈ fileEndings, c ∉ ending.toList) : c ∉ (stem ++ ending).toList := by
    rw [String.toList_append, List.mem_append, not_or]
    refine ⟨fun inStem => ?_, absent ending inside⟩
    have := plain c inStem
    simp [strange] at this
  refine ⟨without '/' (by decide) (by decide), ?_⟩
  have := without '\x00' (by decide) (by decide)
  simpa [Path.isPath] using this

theorem Path.ofText_fileName {stem name : String} (plain : IsPlainStem stem) (member : name ∈ fileNames stem)
    (directory : String) : ofText (join directory name) = ofText directory ++ [name] :=
  ofText_join_plain directory (fileNames_clean plain member).1 (long_of_fileName member)

theorem NameFile.path_of_plain {stem : String} (plain : IsPlainStem stem) (directory : String) :
    NameFile.path directory stem = Path.ofText directory ++ [stem ++ "names.json"] := by
  rw [NameFile.path, Path.ofText_fileName plain (mem_fileNames stem).1]

theorem TimeFile.path_of_plain {stem : String} (plain : IsPlainStem stem) (directory : String) :
    TimeFile.path directory stem = Path.ofText directory ++ [stem ++ "time.json"] := by
  rw [TimeFile.path, Path.ofText_fileName plain (mem_fileNames stem).2]

theorem FlatFile.draftPath_below (above : List String) (name : String) :
    draftPath (above ++ [name]) = above ++ [name ++ ".tmp"] := by
  simp [draftPath]

def filePaths (directory stem : String) : List (List String) :=
  [NameFile.path directory stem, TimeFile.path directory stem].flatMap fun path => [path, FlatFile.draftPath path]

theorem filePaths_eq {stem : String} (plain : IsPlainStem stem) (directory : String) :
    filePaths directory stem = (fileNames stem).map fun name => Path.ofText directory ++ [name] := by
  simp [filePaths, fileNames, fileEndings, NameFile.path_of_plain plain, TimeFile.path_of_plain plain,
    FlatFile.draftPath_below, String.append_assoc]

/-- What stands in the place of a file of one stem is no file of another, whatever directories there are. -/
theorem filePaths_apart {stem other : String} (plain : IsPlainStem stem) (plainToo : IsPlainStem other)
    (differs : stem ≠ other) {directory : String} {path path' : List String} (member : path ∈ filePaths directory stem)
    (memberToo : path' ∈ filePaths directory other) {disk : Disk} {place : Place}
    (reached : disk.locate path = .reached place) : disk.locate path' ≠ .reached place := by
  rw [filePaths_eq plain] at member
  rw [filePaths_eq plainToo] at memberToo
  obtain ⟨name, inside, rfl⟩ := List.mem_map.mp member
  obtain ⟨name', insideToo, rfl⟩ := List.mem_map.mp memberToo
  intro reachedToo
  obtain ⟨parent, houses⟩ := Disk.Houses.of_locate List.getLast?_concat (fileNames_ne_up inside) reached
  obtain ⟨parent', houses'⟩ := Disk.Houses.of_locate List.getLast?_concat (fileNames_ne_up insideToo) reachedToo
  have place := houses.locate.symm.trans (reached.trans (reachedToo.symm.trans houses'.locate))
  simp only [Walk.reached.injEq] at place
  have names := (List.append_inj' place rfl).2
  simp only [List.cons.injEq, and_true] at names
  exact fileNames_disjoint differs inside (names ▸ insideToo)

namespace Sql

theorem endApart_nouns : EndApart (Noun.all.map Noun.text) := by decide

theorem Noun.mem_all (noun : Noun) : noun ∈ Noun.all := by cases noun <;> decide

theorem foldCase_of_plain {text : String} (plain : IsPlainStem text) : foldCase text = text := by
  have folded (c : Char) (member : c ∈ text.toList) : c.toLower = c := by
    have code := code_of_plain plain member
    unfold Char.toLower
    rw [dif_neg]
    simp only [ge_iff_le, UInt32.le_iff_toNat_le]
    change ¬ (65 ≤ c.toNat ∧ c.toNat ≤ 90)
    omega
  rw [foldCase, List.map_congr_left folded, List.map_id', String.ofList_toList]

theorem tableName_plain {stem : String} (plain : IsPlainStem stem) (noun : Noun) :
    IsPlainStem (noun.tableName stem) := by
  have lower : ∀ noun : Noun, IsPlainStem noun.text := by
    intro noun
    cases noun <;> decide
  intro c member
  rw [Noun.tableName, String.toList_append, List.mem_append] at member
  exact member.elim (plain c) (lower noun c)

/-- Not even without regard to case does a table of one stem have the name of a table of another. -/
theorem tableNames_apart {stem other : String} (plain : IsPlainStem stem) (plainToo : IsPlainStem other)
    (differs : stem ≠ other) (noun noun' : Noun) :
    foldCase (noun.tableName stem) ≠ foldCase (noun'.tableName other) := by
  rw [foldCase_of_plain (tableName_plain plain noun), foldCase_of_plain (tableName_plain plainToo noun')]
  intro same
  have member (noun : Noun) : noun.text ∈ Noun.all.map Noun.text := List.mem_map_of_mem noun.mem_all
  exact differs (endApart_nouns.stem_eq (member noun) (member noun') same)

theorem stem?_of_plain {text stem : String} (plain : IsPlainStem text) (opens : stem? text = some stem) :
    stem = text := by
  have nothing : afterGap? .blank text.toList = some text.toList := by
    cases characters : text.toList with
    | nil => rfl
    | cons c rest =>
      have code := code_of_plain plain (c := c) (by simp [characters])
      have marks : c ≠ '-' ∧ c ≠ '/' ∧ c ≠ ' ' ∧ c ≠ '\ufeff' := by
        refine ⟨?_, ?_, ?_, ?_⟩ <;> rintro rfl <;> revert code <;> decide
      have word : isSeparator c = false := by
        simp [isSeparator, marks]
        omega
      simp [afterGap?, marks, word]
  unfold stem? at opens
  rw [nothing] at opens
  dsimp only at opens
  split at opens
  · rw [← Option.some.inj opens, String.ofList_toList]
  · cases opens

end Sql

end Playtime
