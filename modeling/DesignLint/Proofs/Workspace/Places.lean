import DesignLint.Proofs.Text.Codes
import DesignLint.Workspace
import Mathlib.Data.List.Infix

namespace DesignLint

theorem Segments.language?_congr {p q : Segments} (h : p.parts.getLast? = q.parts.getLast?) :
    p.language? = q.language? := by
  have hname : p.name = q.name := by rw [name, name, h]
  have hextension : p.extension = q.extension := by
    unfold extension
    rw [hname]
  rw [language?, language?, hextension]

namespace Workspace

-- A file system without links: no file bears the name that leads upwards, and none is a directory.
structure IsFileSystem (w : Workspace) : Prop where
  named : ∀ e ∈ w.files, ".." ∉ e.1
  apart : ∀ e ∈ w.files, w.isDirectory e.1 = false

def IsFile (w : Workspace) (place : List String) : Prop :=
  place ∈ w.files.map Prod.fst

section Directories

variable {w : Workspace} {here place : List String}

theorem isSome_file?_iff : (w.file? place).isSome = true ↔ w.IsFile place := by
  simp [file?, IsFile, List.find?_isSome]

theorem isDirectory_iff : w.isDirectory place = true ↔
    place <+: w.current ∨ (∃ d ∈ w.directories, place <+: d) ∨
      ∃ e ∈ w.files, place <+: e.1 ∧ place ≠ e.1 := by
  simp [isDirectory, or_assoc]

theorem isDirectory_of_isPrefix (h : here <+: place) (hp : w.isDirectory place = true) :
    w.isDirectory here = true := by
  rw [isDirectory_iff] at hp ⊢
  rcases hp with hc | ⟨d, hd, hp⟩ | ⟨e, he, hp, hne⟩
  · exact .inl (h.trans hc)
  · exact .inr (.inl ⟨d, hd, h.trans hp⟩)
  · refine .inr (.inr ⟨e, he, h.trans hp, ?_⟩)
    rintro rfl
    exact hne (hp.eq_of_length (Nat.le_antisymm hp.length_le h.length_le))

theorem isDirectory_of_isFile_below {s : String} {rest : List String}
    (h : w.IsFile (here ++ s :: rest)) : w.isDirectory here = true := by
  obtain ⟨e, he, hplace⟩ := List.mem_map.mp h
  refine isDirectory_iff.mpr (.inr (.inr ⟨e, he, ?_, ?_⟩))
  · rw [hplace]
    exact List.prefix_append here _
  · rw [hplace]
    intro heq
    have hlength := congrArg List.length heq
    simp at hlength

theorem IsFileSystem.not_isDirectory (fs : w.IsFileSystem) (h : w.IsFile place) :
    w.isDirectory place = false := by
  obtain ⟨e, he, rfl⟩ := List.mem_map.mp h
  exact fs.apart e he

theorem IsFileSystem.parent_not_mem (fs : w.IsFileSystem) (h : w.IsFile place) :
    ".." ∉ place := by
  obtain ⟨e, he, rfl⟩ := List.mem_map.mp h
  exact fs.named e he

theorem walkFrom_nil (h : w.walkFrom here [] = some place) :
    here = place ∧ (w.isDirectory place = true ∨ w.IsFile place) := by
  rw [walkFrom] at h
  split at h
  · next hthere =>
    obtain rfl := Option.some.inj h
    rw [Bool.or_eq_true, isSome_file?_iff] at hthere
    exact ⟨rfl, hthere⟩
  · cases h

theorem walkFrom_cons {s : String} {rest : List String}
    (h : w.walkFrom here (s :: rest) = some place) :
    w.isDirectory here = true ∧
      w.walkFrom (if s = ".." then here.dropLast else here ++ [s]) rest = some place := by
  rw [walkFrom] at h
  split at h
  · cases h
  · next hdir =>
    refine ⟨by simpa using hdir, ?_⟩
    split at h
    · next hs => rwa [if_pos hs]
    · next hs => rwa [if_neg hs]

theorem walkFrom_append {parts : List String} (h : w.walkFrom here parts = some place)
    (way : List String) : w.walkFrom here (parts ++ way) = w.walkFrom place way := by
  induction parts generalizing here with
  | nil =>
    obtain ⟨rfl, -⟩ := walkFrom_nil h
    rfl
  | cons s rest ih =>
    obtain ⟨hdir, hrest⟩ := walkFrom_cons h
    rw [List.cons_append, walkFrom, hdir, ← ih hrest]
    simp only [Bool.not_true, Bool.false_eq_true, if_false]
    split <;> rfl

theorem walkFrom_down {way : List String} (hfile : w.IsFile (here ++ way)) (hup : ".." ∉ way) :
    w.walkFrom here way = some (here ++ way) := by
  induction way generalizing here with
  | nil =>
    rw [List.append_nil] at hfile ⊢
    rw [walkFrom, if_pos]
    rw [isSome_file?_iff.mpr hfile, Bool.or_true]
  | cons s rest ih =>
    obtain ⟨hs, hrest⟩ := not_or.mp (mt List.mem_cons.mpr hup)
    have hbelow : here ++ s :: rest = (here ++ [s]) ++ rest := by simp
    rw [walkFrom, isDirectory_of_isFile_below hfile, if_neg (by simp), if_neg (Ne.symm hs), hbelow]
    exact ih (hbelow ▸ hfile) hrest

theorem walkFrom_concat {parts : List String} {s : String}
    (h : w.walkFrom here (parts ++ [s]) = some place) :
    w.isDirectory place = true ∨ place.getLast? = some s := by
  induction parts generalizing here with
  | nil =>
    obtain ⟨hdir, hlast⟩ := walkFrom_cons h
    obtain ⟨rfl, -⟩ := walkFrom_nil hlast
    split
    · exact .inl (isDirectory_of_isPrefix (List.dropLast_prefix here) hdir)
    · exact .inr (by simp)
  | cons t rest ih => exact ih (walkFrom_cons h).2

theorem resolve?_below {p : Segments} {way : List String} (h : w.resolve? p = some place)
    (hfile : w.IsFile (place ++ way)) (hup : ".." ∉ way) :
    w.resolve? ⟨p.root, p.parts ++ way⟩ = some (place ++ way) := by
  rw [resolve?, walkFrom_append h, walkFrom_down hfile hup]

theorem isDirectory_or_isFile {p : Segments} (h : w.resolve? p = some place) :
    w.isDirectory place = true ∨ w.IsFile place := by
  have hend := walkFrom_append h []
  rw [List.append_nil] at hend
  exact (walkFrom_nil (hend.symm.trans h)).2

-- Names upwards lead to directories, so the last name on the way to a file is that of the file.
theorem getLast?_of_resolve? {p : Segments} (h : w.resolve? p = some place)
    (hdir : w.isDirectory place = false) : p.parts.getLast? = place.getLast? := by
  rw [resolve?] at h
  rcases List.eq_nil_or_concat p.parts with hnil | ⟨parts, s, hparts⟩
  · rw [hnil] at h
    obtain ⟨rfl, -⟩ := walkFrom_nil h
    have hstart : w.isDirectory (if p.root = "" then w.current else []) = true := by
      rw [isDirectory_iff]
      split
      · exact .inl (List.prefix_refl _)
      · exact .inl List.nil_prefix
    rw [hstart] at hdir
    cases hdir
  · rw [hparts, List.concat_eq_append] at h ⊢
    rcases walkFrom_concat h with hd | hlast
    · rw [hd] at hdir
      cases hdir
    · rw [hlast, List.getLast?_concat]

end Directories

end Workspace

end DesignLint
