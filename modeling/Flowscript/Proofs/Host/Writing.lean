import Flowscript.Host.Basic
import Mathlib.Data.List.Basic

/-!
# What writing does to files

A path is followed through directories and links, so it could lead elsewhere once anything in the
tree has changed.  Making directories and writing files only let a tree grow, and in a tree that has
grown all paths lead where they led.

* `FileTree.Leads` is following a path, one part at a time (`FileTree.walk_eq_ok_iff`).
* `FileTree.Grows` is what making directories and writing files do to a tree, and
  `FileTree.Grows.leads` says that paths lead where they led.
* `FileTree.insert_spec` is about a new node, `FileTree.grows_makeDirectories` about directories,
  and `FileTree.writeBytes_spec` about bytes that are written.
* `Host.readText?_of_write?` says that a text which was written can be read after another one was.
-/

set_option autoImplicit false

namespace Flowscript

/-! ## Where paths lead -/

namespace FileTree

theorem kind?_of_entries? {t : FileTree} {n : Nat} {entries : List (String × Nat)}
    (h : t.entries? n = some entries) : ∃ parent, t.kind? n = some (.directory parent entries) := by
  rw [entries?] at h
  split at h
  · rename_i parent _ hkind
    exact ⟨parent, Option.some.inj h ▸ hkind⟩
  · cases h

/-- Whether a part of a path is looked up in a directory. -/
def IsName (part : String) : Prop :=
  part ≠ "." ∧ part ≠ ".." ∧ part.utf8ByteSize ≤ longestName

instance (part : String) : Decidable (IsName part) := inferInstanceAs (Decidable (_ ∧ _ ∧ _))

theorem isName_of {part : String} (hstay : ¬(part == ".") = true) (hup : ¬(part == "..") = true)
    (hlong : ¬longestName < part.utf8ByteSize) : IsName part :=
  ⟨by simpa using hstay, by simpa using hup, Nat.le_of_not_lt hlong⟩

/-- The parts of a path lead from a directory to a place. -/
inductive Leads (t : FileTree) (follow : Bool) : Nat → Nat → List String → Place → Prop
  | stop (links here : Nat) : Leads t follow links here [] ⟨here, "", some here⟩
  | stay {links here : Nat} {rest : List String} {place : Place}
      {entries : List (String × Nat)} (hentries : t.entries? here = some entries)
      (hrest : Leads t follow links here rest place) : Leads t follow links here ("." :: rest) place
  | up {links here : Nat} {rest : List String} {place : Place}
      {entries : List (String × Nat)} (hentries : t.entries? here = some entries)
      (hrest : Leads t follow links (t.parentOf here) rest place) :
      Leads t follow links here (".." :: rest) place
  | missing {links here : Nat} {part : String} {entries : List (String × Nat)}
      (hentries : t.entries? here = some entries) (hname : IsName part)
      (hlookup : entries.lookup part = none) : Leads t follow links here [part] ⟨here, part, none⟩
  | found {links here n : Nat} {part : String} {entries : List (String × Nat)}
      (hentries : t.entries? here = some entries) (hname : IsName part)
      (hlookup : entries.lookup part = some n)
      (hlink : follow = true → ∀ target, t.kind? n ≠ some (.link target)) :
      Leads t follow links here [part] ⟨here, part, some n⟩
  | link {links here n : Nat} {part target : String} {rest : List String} {place : Place}
      {entries : List (String × Nat)} (hentries : t.entries? here = some entries)
      (hname : IsName part) (hlookup : entries.lookup part = some n)
      (hkind : t.kind? n = some (.link target)) (hfollow : rest = [] → follow = true)
      (htarget : target ≠ "")
      (hrest : Leads t follow links (if Path.isAbsolute target then root else here)
        (Path.parts target ++ rest) place) : Leads t follow (links + 1) here (part :: rest) place
  | enter {links here n : Nat} {part : String} {rest : List String} {place : Place}
      {entries : List (String × Nat)} (hentries : t.entries? here = some entries)
      (hname : IsName part) (hlookup : entries.lookup part = some n)
      (hlink : ∀ target, t.kind? n ≠ some (.link target)) (hne : rest ≠ [])
      (hrest : Leads t follow links n rest place) : Leads t follow links here (part :: rest) place

variable {t : FileTree} {follow : Bool} {links here : Nat} {parts : List String} {place : Place}

theorem leads_of_walk (h : t.walk follow links here parts = .ok place) :
    t.Leads follow links here parts place := by
  fun_induction walk t follow links here parts with
  | case1 links here =>
    cases h
    exact .stop links here
  | case2 => cases h
  | case3 links here part rest entries hentries hpart ih =>
    rw [beq_iff_eq] at hpart
    exact hpart ▸ .stay hentries (ih h)
  | case4 links here part rest entries hentries hstay hpart ih =>
    rw [beq_iff_eq] at hpart
    exact hpart ▸ .up hentries (ih h)
  | case5 => cases h
  | case6 links here part rest entries hentries hstay hup hlong hlookup hrest =>
    cases h
    obtain rfl := List.isEmpty_iff.1 hrest
    exact .missing hentries (isName_of hstay hup hlong) hlookup
  | case7 => cases h
  | case8 links here part rest entries hentries hstay hup hlong n hlookup target hkind hrest =>
    cases h
    rw [Bool.and_eq_true, Bool.not_eq_true', List.isEmpty_iff] at hrest
    obtain ⟨rfl, rfl⟩ := hrest
    exact .found hentries (isName_of hstay hup hlong) hlookup (by simp)
  | case9 => cases h
  | case10 => cases h
  | case11 here part rest entries hentries hstay hup hlong n hlookup target hkind hrest links
      htarget ih =>
    exact .link hentries (isName_of hstay hup hlong) hlookup hkind (by simpa using hrest)
      (by simpa using htarget) (by simpa using ih (by simpa using h))
  | case12 links here part rest entries hentries hstay hup hlong n hlookup hrest hlink =>
    cases h
    obtain rfl := List.isEmpty_iff.1 hrest
    exact .found hentries (isName_of hstay hup hlong) hlookup fun _ => hlink
  | case13 links here part rest entries hentries hstay hup hlong n hlookup hrest hlink ih =>
    exact .enter hentries (isName_of hstay hup hlong) hlookup hlink (by simpa using hrest) (ih h)

/-- **A path is followed to a place just if its parts lead there.** -/
theorem walk_eq_ok_iff :
    t.walk follow links here parts = .ok place ↔ t.Leads follow links here parts place := by
  refine ⟨leads_of_walk, fun h => ?_⟩
  induction h with
  | stop links here => rw [walk]
  | stay hentries _ ih => simpa [walk, hentries] using ih
  | up hentries _ ih => simpa [walk, hentries] using ih
  | missing hentries hname hlookup =>
    simp [walk, hentries, hlookup, hname.1, hname.2.1, Nat.not_lt.2 hname.2.2]
  | @found links here n part entries hentries hname hlookup hlink =>
    simp only [walk, hentries, hlookup, beq_iff_eq, hname.1, hname.2.1, Nat.not_lt.2 hname.2.2,
      if_false, List.isEmpty_nil, Bool.true_and, Bool.not_eq_true', if_true]
    split
    · rename_i target hkind
      cases follow with
      | false => rfl
      | true => exact absurd hkind (hlink rfl target)
    · rfl
  | @link links here n part target rest place entries hentries hname hlookup hkind hfollow htarget
      _ ih =>
    have hgoesOn : (rest.isEmpty && !follow) = false := by
      cases rest with
      | nil => simp [hfollow rfl]
      | cons => rfl
    simp only [walk, hentries, hlookup, hkind, beq_iff_eq, hname.1, hname.2.1,
      Nat.not_lt.2 hname.2.2, if_false, hgoesOn, Bool.false_eq_true, String.isEmpty_iff, htarget]
    exact ih
  | @enter links here n part rest place entries hentries hname hlookup hlink hne _ ih =>
    simp only [walk, hentries, hlookup, beq_iff_eq, hname.1, hname.2.1, Nat.not_lt.2 hname.2.2,
      if_false, List.isEmpty_iff, hne]
    exact ih

/-- Only a directory leads on. -/
theorem Leads.exists_entries (h : t.Leads follow links here parts place) (hne : parts ≠ []) :
    ∃ entries, t.entries? here = some entries := by
  cases h with
  | stop => exact absurd rfl hne
  | stay hentries _ => exact ⟨_, hentries⟩
  | up hentries _ => exact ⟨_, hentries⟩
  | missing hentries _ _ => exact ⟨_, hentries⟩
  | found hentries _ _ _ => exact ⟨_, hentries⟩
  | link hentries _ _ _ _ _ _ => exact ⟨_, hentries⟩
  | enter hentries _ _ _ _ _ => exact ⟨_, hentries⟩

/-- Where nothing is, the directory does not have the name. -/
theorem Leads.lookup_eq_none (h : t.Leads follow links here parts place)
    (hnone : place.node? = none) : ∃ entries, t.entries? place.directory = some entries ∧
      entries.lookup place.name = none ∧ IsName place.name := by
  induction h with
  | stop => cases hnone
  | stay _ _ ih => exact ih hnone
  | up _ _ ih => exact ih hnone
  | missing hentries hname hlookup => exact ⟨_, hentries, hlookup, hname⟩
  | found => cases hnone
  | link _ _ _ _ _ _ _ ih => exact ih hnone
  | enter _ _ _ _ _ _ ih => exact ih hnone

/-- Whether a text can be a path. -/
def IsPath (path : String) : Prop :=
  path ≠ "" ∧ '\x00' ∉ path.toList ∧ path.utf8ByteSize ≤ longestPath

instance (path : String) : Decidable (IsPath path) := inferInstanceAs (Decidable (_ ∧ _ ∧ _))

/-- **A path leads to a place just if its parts do**, and what has a slash after it is a
directory. -/
theorem locate_eq_ok_iff {path : String} : t.locate here path follow = .ok place ↔
    IsPath path ∧ t.Leads (follow || Path.endsInSlash path) mostLinks
      (if Path.isAbsolute path then root else here) (Path.parts path) place ∧
      (Path.endsInSlash path = true → ∀ n ∈ place.node?, t.isDirectoryAt n = true) := by
  rw [← walk_eq_ok_iff, IsPath, locate]
  by_cases hempty : path = ""
  · simp [hempty]
  by_cases hnull : '\x00' ∈ path.toList
  · simp [hempty, hnull]
  by_cases hlong : longestPath < path.utf8ByteSize
  · simp [hempty, hnull, hlong, Nat.not_le.2 hlong]
  simp only [String.isEmpty_iff, hempty, List.contains_iff_mem, hnull, hlong, if_false,
    Nat.le_of_not_lt hlong, ne_eq, not_false_eq_true, true_and]
  cases t.walk (follow || Path.endsInSlash path) mostLinks
    (if Path.isAbsolute path then root else here) (Path.parts path) with
  | error fault => simp [bind, Except.bind]
  | ok found =>
    simp only [bind, Except.bind, Except.ok.injEq]
    cases hnode : found.node? with
    | none =>
      simp only [Except.ok.injEq, iff_self_and]
      rintro rfl _ n hn
      simp [hnode] at hn
    | some n =>
      dsimp only
      by_cases hrefused : (Path.endsInSlash path && !t.isDirectoryAt n) = true
      · rw [if_pos hrefused]
        rw [Bool.and_eq_true, Bool.not_eq_true'] at hrefused
        simp only [reduceCtorEq, false_iff, not_and]
        rintro rfl hdirectory
        exact absurd (hdirectory hrefused.1 n hnode) (by simp [hrefused.2])
      · rw [if_neg hrefused, Except.ok.injEq]
        simp only [iff_self_and]
        rintro rfl hslash m hm
        rw [hnode] at hm
        obtain rfl := Option.some.inj hm
        simpa [hslash] using hrefused

theorem find_eq_ok_iff {path : String} {n : Nat} : t.find here path follow = .ok n ↔
    ∃ place, t.locate here path follow = .ok place ∧ place.node? = some n := by
  rw [find]
  cases t.locate here path follow with
  | error fault => simp [bind, Except.bind]
  | ok place =>
    simp only [bind, Except.bind, Except.ok.injEq, exists_eq_left']
    cases place.node? <;> simp

theorem find?_eq_some_iff {path : String} {kind : FileKind} : t.find? here path = some kind ↔
    ∃ n, t.find here path true = .ok n ∧ t.kind? n = some kind := by
  rw [find?]
  cases t.find here path true <;> simp

/-- A path without a slash at its end leads where its parts do. -/
theorem locate_of_leads {path : String} (parts : List String)
    (hpath : IsPath path ∧ Path.endsInSlash path = false ∧ Path.parts path = parts)
    (hleads : t.Leads true mostLinks (if Path.isAbsolute path then root else here) parts place) :
    t.locate here path true = .ok place := by
  obtain ⟨hpath, hslash, rfl⟩ := hpath
  exact locate_eq_ok_iff.2 ⟨hpath, hleads, by simp [hslash]⟩

theorem find?_of_locate {path : String} (h : t.locate here path true = .ok place) :
    t.find? here path = place.node?.bind t.kind? := by
  rw [find?, find, h]
  cases hnode : place.node? <;> simp [bind, Except.bind, hnode]

end FileTree

/-! ## Trees that grow -/

/-- What a node may become when directories are made and files are written: a directory gets names
behind those that it has, and the file that is rewritten gets other bytes. -/
inductive FileKind.Grows (rewritten : Prop) : FileKind → FileKind → Prop
  | same (kind : FileKind) : Grows rewritten kind kind
  | names (parent : Nat) (entries added : List (String × Nat)) :
      Grows rewritten (.directory parent entries) (.directory parent (entries ++ added))
  | bytes (h : rewritten) (before after : ByteArray) :
      Grows rewritten (.regular before) (.regular after)

theorem FileKind.Grows.trans {rewritten : Prop} {a b c : FileKind} (hab : a.Grows rewritten b)
    (hbc : b.Grows rewritten c) : a.Grows rewritten c := by
  cases hab with
  | same => exact hbc
  | names parent entries added =>
    cases hbc with
    | same => exact .names parent entries added
    | names _ _ more =>
      rw [List.append_assoc]
      exact .names parent entries (added ++ more)
  | bytes h before after =>
    cases hbc with
    | same => exact .bytes h before after
    | bytes _ _ last => exact .bytes h before last

namespace FileTree

/-- All nodes of a tree are there in another one, as they were but for more names in directories and
for the bytes of the node that is rewritten, if one is. -/
def Grows (rewritten : Option Nat) (t t' : FileTree) : Prop :=
  ∀ n kind, t.kind? n = some kind →
    ∃ kind', t'.kind? n = some kind' ∧ FileKind.Grows (rewritten = some n) kind kind'

namespace Grows

variable {rewritten : Option Nat} {t t' t'' : FileTree} {follow : Bool} {links here : Nat}
  {parts : List String} {place : Place}

theorem refl (rewritten : Option Nat) (t : FileTree) : t.Grows rewritten t :=
  fun _ kind h => ⟨kind, h, .same kind⟩

theorem trans (h : t.Grows rewritten t') (h' : t'.Grows rewritten t'') :
    t.Grows rewritten t'' := by
  intro n kind hkind
  obtain ⟨kind', hkind', hgrows⟩ := h n kind hkind
  obtain ⟨kind'', hkind'', hgrows'⟩ := h' n kind' hkind'
  exact ⟨kind'', hkind'', hgrows.trans hgrows'⟩

/-- Where nothing is rewritten, something might have been. -/
theorem weaken (h : t.Grows none t') (rewritten : Option Nat) : t.Grows rewritten t' := by
  intro n kind hkind
  obtain ⟨kind', hkind', hgrows⟩ := h n kind hkind
  refine ⟨kind', hkind', ?_⟩
  cases hgrows with
  | same => exact .same _
  | names parent entries added => exact .names parent entries added
  | bytes h => cases h

theorem entries? (h : t.Grows rewritten t') {n : Nat} {entries : List (String × Nat)}
    (hentries : t.entries? n = some entries) :
    (∃ added, t'.entries? n = some (entries ++ added)) ∧ t'.parentOf n = t.parentOf n := by
  obtain ⟨parent, hkind⟩ := kind?_of_entries? hentries
  obtain ⟨kind', hkind', hgrows⟩ := h n _ hkind
  cases hgrows with
  | same =>
    refine ⟨⟨[], ?_⟩, ?_⟩
    · rw [FileTree.entries?, hkind', List.append_nil]
    · rw [parentOf, parentOf, hkind, hkind']
  | names _ _ added =>
    refine ⟨⟨added, ?_⟩, ?_⟩
    · rw [FileTree.entries?, hkind']
    · rw [parentOf, parentOf, hkind, hkind']

/-- What is neither a directory nor rewritten stays what it is. -/
theorem kind?_eq (h : t.Grows rewritten t') {n : Nat} {kind : FileKind}
    (hkind : t.kind? n = some kind)
    (hdirectory : ∀ parent entries, kind ≠ .directory parent entries)
    (hregular : rewritten = some n → ∀ content, kind ≠ .regular content) :
    t'.kind? n = some kind := by
  obtain ⟨kind', hkind', hgrows⟩ := h n kind hkind
  cases hgrows with
  | same => exact hkind'
  | names parent entries added => exact absurd rfl (hdirectory parent entries)
  | bytes hrewritten before after => exact absurd rfl (hregular hrewritten before)

/-- A node that is there becomes no link. -/
theorem ne_link (h : t.Grows rewritten t') {n : Nat} {kind : FileKind}
    (hkind : t.kind? n = some kind) (hlink : ∀ target, t.kind? n ≠ some (.link target))
    (target : String) : t'.kind? n ≠ some (.link target) := by
  obtain ⟨kind', hkind', hgrows⟩ := h n _ hkind
  intro heq
  obtain rfl := Option.some.inj (hkind'.symm.trans heq)
  cases hgrows
  exact hlink target hkind

/-- **Paths lead where they led.**  Where nothing was there may be a node now, which is no link.
A name that stands for no node is left out, since the next new node might be what it stands for. -/
theorem leads (h : t.Grows rewritten t') (hl : t.Leads follow links here parts place)
    (node? : Option Nat)
    (hold : ∀ n, place.node? = some n → node? = some n ∧ (t.kind? n).isSome)
    (hnew : place.node? = none → ∀ entries, t'.entries? place.directory = some entries →
      entries.lookup place.name = node? ∧ ∀ n ∈ node?, ∀ target, t'.kind? n ≠ some (.link target)) :
    t'.Leads follow links here parts ⟨place.directory, place.name, node?⟩ := by
  -- The induction is on the way through the old tree; its last step decides what is at the end.
  induction hl with
  | stop links here =>
    obtain ⟨rfl, -⟩ := hold _ rfl
    exact .stop links here
  | stay hentries _ ih =>
    obtain ⟨⟨added, hadded⟩, -⟩ := h.entries? hentries
    exact .stay hadded (ih hold hnew)
  | up hentries _ ih =>
    obtain ⟨⟨added, hadded⟩, hparent⟩ := h.entries? hentries
    refine .up hadded ?_
    rw [hparent]
    exact ih hold hnew
  | @missing links here part entries hentries hname hlookup =>
    obtain ⟨⟨added, hadded⟩, -⟩ := h.entries? hentries
    obtain ⟨hlookup', hlink⟩ := hnew rfl _ hadded
    cases node? with
    | none => exact .missing hadded hname hlookup'
    | some n => exact .found hadded hname hlookup' fun _ => hlink n rfl
  | @found links here n part entries hentries hname hlookup hlink =>
    obtain ⟨⟨added, hadded⟩, -⟩ := h.entries? hentries
    obtain ⟨rfl, hsome⟩ := hold _ rfl
    obtain ⟨kind, hkind⟩ := Option.isSome_iff_exists.1 hsome
    refine .found hadded hname ?_ fun hfollow => h.ne_link hkind (hlink hfollow)
    rw [List.lookup_append, hlookup, Option.some_or]
  | @link links here n part target rest place entries hentries hname hlookup hkind hfollow htarget
      _ ih =>
    obtain ⟨⟨added, hadded⟩, -⟩ := h.entries? hentries
    have hkind' := h.kind?_eq hkind (by simp) (by simp)
    refine .link hadded hname ?_ hkind' hfollow htarget (ih hold hnew)
    rw [List.lookup_append, hlookup, Option.some_or]
  | @enter links here n part rest place entries hentries hname hlookup hlink hne hrest ih =>
    obtain ⟨⟨added, hadded⟩, -⟩ := h.entries? hentries
    obtain ⟨inner, hinner⟩ := hrest.exists_entries hne
    obtain ⟨parent, hkind⟩ := kind?_of_entries? hinner
    refine .enter hadded hname ?_ (h.ne_link hkind hlink) hne (ih hold hnew)
    rw [List.lookup_append, hlookup, Option.some_or]

theorem isDirectoryAt (h : t.Grows rewritten t') {n : Nat} (hn : t.isDirectoryAt n = true) :
    t'.isDirectoryAt n = true := by
  obtain ⟨entries, hentries⟩ := Option.isSome_iff_exists.1 hn
  obtain ⟨⟨added, hadded⟩, -⟩ := h.entries? hentries
  rw [FileTree.isDirectoryAt, hadded, Option.isSome_some]

/-- **What a path leads to is still what it leads to.** -/
theorem find (h : t.Grows rewritten t') {path : String} {n : Nat}
    (hfind : t.find here path follow = .ok n) (hn : (t.kind? n).isSome) :
    t'.find here path follow = .ok n := by
  rw [find_eq_ok_iff] at hfind ⊢
  obtain ⟨place, hlocate, hnode⟩ := hfind
  refine ⟨place, ?_, hnode⟩
  obtain ⟨hpath, hleads, hclosed⟩ := locate_eq_ok_iff.1 hlocate
  have hleads' := h.leads hleads place.node? (fun m hm => ⟨hm, ?_⟩) (by simp [hnode])
  · exact locate_eq_ok_iff.2
      ⟨hpath, hleads', fun hslash m hm => h.isDirectoryAt (hclosed hslash m hm)⟩
  · rw [hnode] at hm
    exact Option.some.inj hm ▸ hn

end Grows

/-! ## Making directories -/

section

variable {t grown : FileTree} {here n mode : Nat} {path : String} {follow : Bool} {place : Place}
  {kind : FileKind}

theorem kind?_modifyKind (t : FileTree) (n : Nat) (f : FileKind → FileKind) (m : Nat) :
    (t.modifyKind n f).kind? m = if n = m then (t.kind? m).map f else t.kind? m := by
  simp only [modifyKind, kind?, Array.getElem?_modify]
  split <;> simp [Function.comp_def]

theorem kind?_push (t : FileTree) (node : FileNode) (m : Nat) :
    FileTree.kind? { t with nodes := t.nodes.push node } m =
      if m = t.nodes.size then some node.kind else t.kind? m := by
  simp only [kind?, Array.getElem?_push]
  split <;> rfl

/-- A name that a directory does not have is put behind those that it has. -/
theorem kind?_setEntry {parent : Nat} {entries : List (String × Nat)} {name : String}
    {directory : Nat} (hkind : t.kind? directory = some (.directory parent entries))
    (hlookup : entries.lookup name = none) (n m : Nat) :
    (t.setEntry directory name n).kind? m =
      if directory = m then some (.directory parent (entries ++ [(name, n)])) else t.kind? m := by
  rw [setEntry, modifyEntries, kind?_modifyKind]
  split
  · rename_i heq
    rw [← heq, hkind]
    simp [hlookup]
  · rfl

/-- **A new node gets a name behind the others, and all else stays as it is.** -/
theorem insert_spec (hlocate : t.locate here path follow = .ok place)
    (hinsert : t.insert place kind mode = .ok (grown, n)) :
    place.node? = none ∧ t.Grows none grown ∧ t.kind? n = none ∧ grown.kind? n = some kind ∧
      ∀ entries, grown.entries? place.directory = some entries →
        entries.lookup place.name = some n := by
  rw [insert] at hinsert
  split at hinsert
  · cases hinsert
  rename_i hfree
  split at hinsert
  · cases hinsert
  obtain ⟨rfl, rfl⟩ := Prod.mk.inj (Except.ok.inj hinsert)
  have hnone : place.node? = none := by
    cases hnode : place.node? with
    | none => rfl
    | some m => simp [hnode] at hfree
  obtain ⟨-, hleads, -⟩ := locate_eq_ok_iff.1 hlocate
  obtain ⟨entries, hentries, hlookup, -⟩ := hleads.lookup_eq_none hnone
  obtain ⟨parent, hkind⟩ := kind?_of_entries? hentries
  have hnew : t.kind? t.nodes.size = none := by simp [kind?]
  have hdirectory : place.directory ≠ t.nodes.size := by
    intro heq
    rw [heq, hnew] at hkind
    cases hkind
  have hpushed := kind?_push t ⟨kind, mode, t.time⟩
  have hset := kind?_setEntry ((hpushed _).trans (if_neg hdirectory) |>.trans hkind) hlookup
    t.nodes.size
  refine ⟨hnone, fun m kind' hm => ?_, hnew, ?_, fun entries' hentries' => ?_⟩
  · rw [hset]
    split
    · rename_i heq
      rw [← heq, hkind] at hm
      obtain rfl := Option.some.inj hm
      exact ⟨_, rfl, .names parent entries _⟩
    · have hold : m ≠ t.nodes.size := by
        rintro rfl
        rw [hnew] at hm
        cases hm
      exact ⟨kind', (hpushed m).trans (if_neg hold) |>.trans hm, .same kind'⟩
  · rw [hset, if_neg hdirectory, hpushed, if_pos rfl]
  · rw [entries?, hset, if_pos rfl] at hentries'
    obtain rfl := Option.some.inj hentries'
    simp [List.lookup_append, hlookup]

theorem grows_makeDirectory (h : t.makeDirectory here path mode = .ok grown) :
    t.Grows none grown := by
  rw [makeDirectory] at h
  cases hlocate : t.locate here path false with
  | error fault => simp [hlocate, bind, Except.bind] at h
  | ok place =>
    cases hinsert : t.insertDirectory place mode with
    | error fault => simp [hlocate, hinsert, bind, Except.bind] at h
    | ok made =>
      simp only [hlocate, hinsert, bind, Except.bind, Except.ok.injEq] at h
      obtain ⟨-, hgrows, -⟩ := insert_spec hlocate hinsert
      exact h ▸ hgrows

theorem grows_ensureDirectory (h : t.ensureDirectory here path = .ok grown) :
    t.Grows none grown := by
  rw [ensureDirectory] at h
  split at h
  · rename_i made hmade
    obtain rfl := Except.ok.inj h
    exact grows_makeDirectory hmade
  · split at h
    · obtain rfl := Except.ok.inj h
      exact .refl none t
    · cases h

theorem grows_makeAll (t : FileTree) (here : Nat) (paths : List String) :
    t.Grows none (t.makeAll here paths).2 := by
  induction paths with
  | nil => exact .refl none t
  | cons path rest ih =>
    rw [makeAll]
    split
    · rename_i made hmade
      rwa [hmade] at ih
    · rename_i made hmade
      rw [hmade] at ih
      split
      · rename_i ensured hensured
        exact ih.trans (grows_ensureDirectory hensured)
      · exact ih

/-- **Making directories takes nothing away.** -/
theorem grows_makeDirectories (t : FileTree) (here : Nat) (path : String) :
    t.Grows none (t.makeDirectories here path).2 := by
  rw [makeDirectories]
  split
  · exact grows_makeAll t here _
  · exact .refl none t

/-- The root is there already. -/
theorem makeDirectories_root (h : t.isDirectoryAt root = true) (here : Nat) :
    t.makeDirectories here "/" = (true, t) := by
  have hlocate : ∀ follow, t.locate here "/" follow = .ok ⟨root, "", some root⟩ := fun follow =>
    locate_eq_ok_iff.2 ⟨by decide, .stop _ _, fun _ n hn => Option.some.inj hn ▸ h⟩
  have hdirectory : t.isDirectory here "/" = true := by
    obtain ⟨entries, hentries⟩ := Option.isSome_iff_exists.1 h
    obtain ⟨parent, hkind⟩ := kind?_of_entries? hentries
    rw [isDirectory, find?_of_locate (hlocate true), Option.bind_some, hkind]
  have hensure : t.ensureDirectory here "/" = .ok t := by
    rw [ensureDirectory, makeDirectory, hlocate]
    simp [bind, Except.bind, insertDirectory, insert, hdirectory]
  have habove : Path.above ("/".length + 1) "/" = ["/"] := by decide
  rw [makeDirectories, habove]
  simp [neededDirectories, makeAll, hensure]

/-! ## Writing files -/

theorem content_grows (hkind : ∃ before, t.kind? n = some (.regular before)) (content : ByteArray) :
    t.Grows (some n) (t.modifyContent n fun _ => content) ∧
      (t.modifyContent n fun _ => content).kind? n = some (.regular content) := by
  obtain ⟨before, hkind⟩ := hkind
  rw [modifyContent]
  refine ⟨fun m kind hm => ?_, ?_⟩
  · rw [kind?_modifyKind]
    split
    · rename_i heq
      subst heq
      rw [hkind] at hm
      obtain rfl := Option.some.inj hm
      exact ⟨_, by rw [hkind]; rfl, .bytes rfl before content⟩
    · exact ⟨kind, hm, .same kind⟩
  · rw [kind?_modifyKind, if_pos rfl, hkind]
    rfl

/-- **The bytes that were written are where the path leads, and nothing else has changed**, unless
the path leads to the device that swallows all. -/
theorem writeBytes_spec {content : ByteArray} (h : t.writeBytes here path content = .ok grown) :
    (∃ n, grown.find here path true = .ok n ∧ grown.kind? n = some (.regular content) ∧
      t.Grows (some n) grown) ∨
    grown = t ∧ t.find? here path = some (.device .nothing) := by
  rw [writeBytes] at h
  cases hlocate : t.locate here path true with
  | error fault => simp [hlocate, bind, Except.bind] at h
  | ok place =>
    simp only [hlocate, bind, Except.bind] at h
    cases hnode : place.node? with
    | some n =>
      have hfind : t.find here path true = .ok n := find_eq_ok_iff.2 ⟨place, hlocate, hnode⟩
      simp only [hnode] at h
      split at h
      · rename_i before hkind
        obtain rfl := Except.ok.inj h
        obtain ⟨hgrows, hwritten⟩ := content_grows ⟨before, hkind⟩ content
        exact .inl ⟨n, hgrows.find hfind (by rw [hkind, Option.isSome_some]), hwritten, hgrows⟩
      · rename_i hkind
        obtain rfl := Except.ok.inj h
        exact .inr ⟨rfl, find?_eq_some_iff.2 ⟨n, hfind, hkind⟩⟩
      · cases h
      · cases h
    | none =>
      simp only [hnode] at h
      split at h
      · cases h
      rename_i hslash
      cases hinsert : t.insert place (.regular content) plainMode with
      | error fault => simp [hinsert] at h
      | ok made =>
        obtain ⟨made, n⟩ := made
        simp only [hinsert, Except.ok.injEq] at h
        subst h
        obtain ⟨-, hgrows, -, hkind, hlookup⟩ := insert_spec hlocate hinsert
        refine .inl ⟨n, ?_, hkind, hgrows.weaken _⟩
        obtain ⟨hpath, hleads, -⟩ := locate_eq_ok_iff.1 hlocate
        refine find_eq_ok_iff.2 ⟨⟨place.directory, place.name, some n⟩, ?_, rfl⟩
        refine locate_eq_ok_iff.2 ⟨hpath, hgrows.leads hleads (some n) ?_ ?_, fun h => absurd h hslash⟩
        · simp [hnode]
        · intro _ entries hentries
          refine ⟨hlookup entries hentries, fun m hm target hlink => ?_⟩
          obtain rfl := Option.some.inj hm
          rw [hkind] at hlink
          cases hlink

/-- Where nothing is, a file is made. -/
theorem writeBytes_of_missing {directory : Nat} {name : String}
    (hlocate : t.locate here path true = .ok ⟨directory, name, none⟩)
    (hpath : Path.endsInSlash path = false ∧ name.isEmpty = false)
    (hattached : t.isAttached directory = true) (content : ByteArray) :
    t.writeBytes here path content =
      .ok (setEntry { t with nodes := t.nodes.push ⟨.regular content, plainMode, t.time⟩ }
        directory name t.nodes.size) := by
  rw [writeBytes, hlocate]
  simp [bind, Except.bind, hpath.1, hpath.2, insert, hattached]

end

end FileTree

/-! ## Hosts -/

namespace Host

/-- Making directories takes nothing away from a host. -/
theorem grows_makeDirectories (h : Host) (path : String) :
    h.tree.Grows none (h.makeDirectories path).2.tree ∧
      (h.makeDirectories path).2.directory = h.directory :=
  ⟨h.treeNow.grows_makeDirectories h.directory path, rfl⟩

/-- The root is there already on a host. -/
theorem makeDirectories_root {h : Host} (hroot : h.treeNow.isDirectoryAt FileTree.root = true) :
    h.makeDirectories "/" = (true, h.setTree h.treeNow) := by
  rw [makeDirectories, FileTree.makeDirectories_root hroot]

/-- Where nothing is, a text makes a file. -/
theorem write?_of_missing {h : Host} {path name : String} {directory : Nat}
    (hlocate : h.treeNow.locate h.directory path true = .ok ⟨directory, name, none⟩)
    (hpath : Path.endsInSlash path = false ∧ name.isEmpty = false)
    (hattached : h.treeNow.isAttached directory = true) (text : String) :
    h.write? path text = some (h.setTree (FileTree.setEntry
      { h.treeNow with nodes := h.tree.nodes.push ⟨.regular text.toUTF8, FileTree.plainMode,
        h.treeNow.time⟩ } directory name h.tree.nodes.size)) := by
  rw [write?, FileTree.write?, FileTree.writeBytes_of_missing hlocate hpath hattached]
  rfl

/-- **A text that was written is where the path leads, and nothing else has changed**, unless the
path leads to the device that swallows all. -/
theorem write?_spec {h h' : Host} {path text : String} (hwrite : h.write? path text = some h') :
    h'.directory = h.directory ∧
      ((∃ n, h'.tree.find h'.directory path true = .ok n ∧
        h'.tree.kind? n = some (.regular text.toUTF8) ∧ h.tree.Grows (some n) h'.tree) ∨
      h.tree.Grows none h'.tree ∧
        h'.tree.find? h'.directory path = some (.device .nothing)) := by
  rw [write?, FileTree.write?] at hwrite
  obtain ⟨tree, htree, rfl⟩ := Option.map_eq_some_iff.1 hwrite
  cases hbytes : h.treeNow.writeBytes h.directory path text.toUTF8 with
  | error fault =>
    rw [hbytes] at htree
    cases htree
  | ok grown =>
    rw [hbytes] at htree
    obtain rfl := Option.some.inj htree
    refine ⟨rfl, ?_⟩
    rcases FileTree.writeBytes_spec hbytes with ⟨n, hfind, hkind, hgrows⟩ | ⟨rfl, hdevice⟩
    · exact .inl ⟨n, hfind, hkind, hgrows⟩
    · exact .inr ⟨.refl none _, hdevice⟩

/-- The text of a file is read back. -/
theorem readText?_of_find? {h : Host} {path text : String}
    (hfind : h.tree.find? h.directory path = some (.regular text.toUTF8)) :
    h.readText? path = some text := by
  rw [readText?, FileTree.readText?, FileTree.readBytes?, hfind]
  exact dif_pos text.isValidUTF8

theorem readText?_of_find?_eq_none {h : Host} {path : String}
    (hfind : h.tree.find? h.directory path = none) : h.readText? path = none := by
  rw [readText?, FileTree.readText?, FileTree.readBytes?, hfind]
  rfl

/-- **What is written stays when something else is.**  After a text was written, directories are made
and another text is written: the first one can still be read, unless both paths lead to one file or
the first leads to the device that swallows all. -/
theorem readText?_of_write? {h first second : Host} {path text directory path' text' : String}
    (hfirst : h.write? path text = some first)
    (hsecond : (first.makeDirectories directory).2.write? path' text' = some second) :
    second.readText? path = some text ∨
      second.tree.find? second.directory path = some (.device .nothing) ∨
      ∃ n, second.tree.find second.directory path true = .ok n ∧
        second.tree.find second.directory path' true = .ok n := by
  obtain ⟨hmade, hdirectory⟩ := first.grows_makeDirectories directory
  obtain ⟨hdirectory', hsecond⟩ := write?_spec hsecond
  obtain ⟨rewritten, hgrows, hother⟩ : ∃ rewritten, first.tree.Grows rewritten second.tree ∧
      ∀ n, rewritten = some n → second.tree.find second.directory path' true = .ok n := by
    rcases hsecond with ⟨m, hfind, -, hgrows⟩ | ⟨hgrows, -⟩
    · refine ⟨some m, (hmade.weaken _).trans hgrows, fun n hn => ?_⟩
      exact Option.some.inj hn ▸ hfind
    · exact ⟨none, hmade.trans hgrows, by simp⟩
  rcases (write?_spec hfirst).2 with ⟨n, hfind, hkind, -⟩ | ⟨-, hdevice⟩
  · rw [← hdirectory, ← hdirectory'] at hfind
    have hfound := hgrows.find hfind (by rw [hkind, Option.isSome_some])
    by_cases hsame : rewritten = some n
    · exact .inr (.inr ⟨n, hfound, hother n hsame⟩)
    · have hkept := FileTree.find?_eq_some_iff.2
        ⟨n, hfound, hgrows.kind?_eq hkind (by simp) fun h => absurd h hsame⟩
      exact .inl (readText?_of_find? hkept)
  · obtain ⟨n, hfind, hkind⟩ := FileTree.find?_eq_some_iff.1 hdevice
    rw [← hdirectory, ← hdirectory'] at hfind
    have hfound := hgrows.find hfind (by rw [hkind, Option.isSome_some])
    exact .inr (.inl (FileTree.find?_eq_some_iff.2
      ⟨n, hfound, hgrows.kind?_eq hkind (by simp) (by simp)⟩))

end Host

end Flowscript
