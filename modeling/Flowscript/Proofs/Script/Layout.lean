import Flowscript.Proofs.Json.Numerals
import Flowscript.Proofs.Toolbox
import Flowscript.Script.Compile

/-!
# Paths of a layout

A path tells which file it is: the row, the block and the position of the output can be read off
the path of an artifact, and no path of a sink looks like one of the files between.

* `FormatCatalog.IsDefined.head?_suffix` says that suffixes cannot be mistaken for digits.
* `Layout.artifact_inj` takes the path of an artifact apart.
* `Compilation.sinkTarget_ne` keeps the files of sinks apart from all others.
-/

set_option autoImplicit false

namespace Flowscript

/-! ## Suffixes -/

theorem Format.head?_normalizeSuffix (suffix : String) :
    ∀ c ∈ (normalizeSuffix suffix).toList.head?, c = '.' := by
  intro c hc
  rw [normalizeSuffix] at hc
  split at hc
  · rename_i h
    rw [Bool.or_eq_true, beq_iff_eq] at h
    rcases h with hempty | hpoint
    · rw [String.isEmpty_iff.1 hempty] at hc
      cases hc
    · rw [hpoint] at hc
      exact (Option.some.inj hc).symm
  · rw [String.toList_append] at hc
    exact (Option.some.inj hc).symm

/-- A suffix starts with a point if with anything. -/
theorem FormatCatalog.IsDefined.head?_suffix_eq {c : FormatCatalog} (h : c.IsDefined)
    (format : String) : ∀ ch ∈ (c.suffix format).toList.head?, ch = '.' := by
  rw [suffix]
  cases hf : c.get? format with
  | none =>
    rintro ch ⟨⟩
  | some f =>
    obtain ⟨name, suffix, parent, colour, rfl⟩ := h f (List.mem_of_find?_eq_some hf)
    exact Format.head?_normalizeSuffix suffix

/-- A suffix does not go on the digits before it. -/
theorem FormatCatalog.IsDefined.head?_suffix {c : FormatCatalog} (h : c.IsDefined)
    (format : String) : ∀ ch ∈ (c.suffix format).toList.head?, ch.isDigit = false := by
  intro ch hch
  rw [h.head?_suffix_eq format ch hch]
  rfl

/-! ## Taking paths apart -/

/-- Where two texts that begin with characters of a kind go on with another kind, the beginnings
are the same if the texts are. -/
theorem append_inj_of_kind {p : Char → Bool} {as bs rest rest' : List Char}
    (ha : ∀ c ∈ as, p c = true) (hb : ∀ c ∈ bs, p c = true) (hr : ∀ c ∈ rest.head?, p c = false)
    (hr' : ∀ c ∈ rest'.head?, p c = false) (h : as ++ rest = bs ++ rest') :
    as = bs ∧ rest = rest' := by
  obtain ⟨htake, hdrop⟩ := takeWhile_digits ha hr
  obtain ⟨htake', hdrop'⟩ := takeWhile_digits hb hr'
  rw [h] at htake hdrop
  exact ⟨htake.symm.trans htake', hdrop.symm.trans hdrop'⟩

/-- Texts are taken apart at a character that neither beginning has. -/
theorem append_inj_of_not_mem {a : Char} {as bs rest rest' : List Char} (ha : a ∉ as)
    (hb : a ∉ bs) (h : as ++ a :: rest = bs ++ a :: rest') : as = bs ∧ rest = rest' := by
  have hkind : ∀ cs : List Char, a ∉ cs → ∀ c ∈ cs, (c != a) = true := by
    intro cs hcs c hc
    rw [bne_iff_ne]
    rintro rfl
    exact hcs hc
  obtain ⟨hfront, hback⟩ := append_inj_of_kind (hkind as ha) (hkind bs hb) (by simp) (by simp) h
  exact ⟨hfront, (List.cons.inj hback).2⟩

theorem toDigits_inj {m n : Nat} (h : Nat.toDigits 10 m = Nat.toDigits 10 n) : m = n := by
  rw [← Nat.ofDigitChars_ten_toDigits (n := m), h, Nat.ofDigitChars_ten_toDigits]

namespace Layout

theorem rowDirectory_inj {row row' : String} (h : rowDirectory row = rowDirectory row') :
    row = row' := by
  have hlist := congrArg String.toList h
  rw [rowDirectory, rowDirectory, String.toList_append, String.toList_append] at hlist
  exact String.toList_inj.1 (List.append_cancel_left hlist)

theorem toList_artifact (row : String) (block : BlockId) (index : Nat) (suffix : String) :
    (artifact row block index suffix).toList =
      "$(PROCESSING)".toList ++ (row.toList ++ ('/' :: (Nat.toDigits 10 block.number ++
        ('_' :: (Nat.toDigits 10 index ++ suffix.toList))))) := by
  rw [artifact, rowDirectory, BlockId.text]
  simp only [String.toList_append, List.append_assoc]
  congr 2
  have hdigits : ∀ n : Nat, (toString n).toList = Nat.toDigits 10 n := fun n => String.toList_ofList
  rw [hdigits, hdigits]
  rfl

/-- The path of an artifact tells its row and its block, whatever its suffix is. -/
theorem artifact_inj_block {row row' : String} {block block' : BlockId} {index index' : Nat}
    {suffix suffix' : String} (hrow : '/' ∉ row.toList) (hrow' : '/' ∉ row'.toList)
    (h : artifact row block index suffix = artifact row' block' index' suffix') :
    row = row' ∧ block = block' ∧
      Nat.toDigits 10 index ++ suffix.toList = Nat.toDigits 10 index' ++ suffix'.toList := by
  have hlist := congrArg String.toList h
  rw [toList_artifact, toList_artifact] at hlist
  obtain ⟨hrows, hlist⟩ := append_inj_of_not_mem hrow hrow' (List.append_cancel_left hlist)
  obtain ⟨hblocks, hlist⟩ := append_inj_of_kind (p := Char.isDigit) isDigit_toDigits
    isDigit_toDigits (by simp) (by simp) hlist
  exact ⟨String.toList_inj.1 hrows, congrArg BlockId.mk (toDigits_inj hblocks),
    (List.cons.inj hlist).2⟩

/-- **The path of an artifact tells its row, its block and its position.** -/
theorem artifact_inj {row row' : String} {block block' : BlockId} {index index' : Nat}
    {suffix suffix' : String} (hrow : '/' ∉ row.toList) (hrow' : '/' ∉ row'.toList)
    (hsuffix : ∀ c ∈ suffix.toList.head?, c.isDigit = false)
    (hsuffix' : ∀ c ∈ suffix'.toList.head?, c.isDigit = false)
    (h : artifact row block index suffix = artifact row' block' index' suffix') :
    row = row' ∧ block = block' ∧ index = index' := by
  obtain ⟨hrows, hblocks, hlist⟩ := artifact_inj_block hrow hrow' h
  obtain ⟨hindices, -⟩ := append_inj_of_kind isDigit_toDigits isDigit_toDigits hsuffix hsuffix'
    hlist
  exact ⟨hrows, hblocks, toDigits_inj hindices⟩

/-- An artifact lies in the directory of a row and is no such directory. -/
theorem artifact_ne_rowDirectory {row row' : String} {block : BlockId} {index : Nat}
    {suffix : String} (hrow' : '/' ∉ row'.toList) :
    artifact row block index suffix ≠ rowDirectory row' := by
  intro h
  have hlist := congrArg String.toList h
  rw [toList_artifact, rowDirectory, String.toList_append] at hlist
  refine hrow' ?_
  rw [← List.append_cancel_left hlist]
  simp

end Layout

/-- **No sink names a file between source and result.** -/
theorem Compilation.sinkTarget_ne (file rest : String) :
    sinkTarget file ≠ "$(PROCESSING)" ++ rest := by
  intro h
  have hlist := congrArg String.toList h
  rw [sinkTarget] at hlist
  split at hlist
  · rename_i habsolute
    rw [Path.isAbsolute, hlist, String.toList_append] at habsolute
    cases habsolute
  · rw [Layout.inOutput, String.toList_append, String.toList_append] at hlist
    have hthird := congrArg (·[2]?) hlist
    cases hthird

end Flowscript
