import Mathlib
import ExprLexer.Proofs.TomlRoundTrip
import ExprLexer.Proofs.Files
import ExprLexer.Proofs.Utf8
import ExprLexer.ConfigFile
import ExprLexer.Session

/-!
# Saving and loading a configuration

The document of a configuration is a document of sections: a `lexer` table with the keywords,
if they are set, and an `output` table with the format (`Config.isSectioned_toToml`). So with a
TOML library that reads back every document of sections it writes, such as this library's own
(`Toml.codec_roundTrips`), a configuration read back from its own text is the configuration
written, whatever the keywords hold (`Config.ofText_toText`).

Saving writes that text to a file and loading reads the file; a file is read back as written
(`Tree.readFile_of_writeFile`). So wherever a save succeeds, loading from the same path gives the
configuration saved (`Config.load_after_save`). A save does not succeed everywhere its directories
can be made: where a directory stands at the path itself, the write fails
(`Config.save_over_directory`).
-/

namespace ExprLexer

open Toml

namespace Config

/-! ### The document of a configuration -/

/-- The document of a configuration is a document of sections: a `lexer` table holding the
keywords when they are set, and an `output` table holding the format's name. -/
theorem isSectioned_toToml (c : Config) : IsSectioned c.toToml := by
  have hkeys : IsBareKey "lexer" ∧ IsBareKey "keywords" ∧ IsBareKey "output" ∧
      IsBareKey "format" := by decide
  obtain ⟨kws, f⟩ := c
  cases kws <;> simp [toToml, IsSectioned, IsKeyed, Value.IsSetting, hkeys]

/-- The texts of an array of strings are those strings. -/
theorem stringList?_strings (ws : List String) : stringList? (.array (ws.map .string)) = some ws := by
  induction ws with
  | nil => rfl
  | cons w ws ih =>
    simp only [stringList?, List.map_cons, List.mapM_cons] at ih ⊢
    rw [ih]
    rfl

theorem ofName?_name (f : DumpFormat) : DumpFormat.ofName? f.name = some f := by
  cases f <;> rfl

/-- The document of a configuration sets that configuration. -/
theorem ofToml?_toToml (c : Config) : ofToml? (.table c.toToml) = some c := by
  obtain ⟨kws, f⟩ := c
  cases kws with
  | none => simp [ofToml?, toToml, setting?, formatOf?, ofName?_name, List.lookup_cons]
  | some ws =>
    simp [ofToml?, toToml, setting?, formatOf?, ofName?_name, stringList?_strings, List.lookup_cons]

/-- A configuration read from its own text is the configuration written, through a TOML library
that reads back the documents of sections it writes. -/
theorem ofText_toText {codec : Codec} (hcodec : codec.RoundTrips) (c : Config) :
    ofText codec (c.toText codec) = .ok c := by
  rw [ofText, toText, hcodec _ (isSectioned_toToml c)]
  simp only [ofToml?_toToml]

/-! ### Saving and loading -/

/-- The bytes of a text decode to the text. -/
theorem decodeString?_bytes (s : String) : Utf8.decodeString? (Utf8.bytes s).toList = some s := by
  rw [← String.ofList_toList (s := s), Utf8.decodeString?, Utf8.bytes_ofList,
    Utf8.decode_flatMap_utf8EncodeChar]
  rfl

/-- Mapping the error of a result leaves a success as it was. -/
theorem eq_ok_of_mapError {ε ε' α : Type} {x : Except ε α} {f : ε → ε'} {a : α}
    (h : x.mapError f = .ok a) : x = .ok a := by
  cases x <;> simp_all [Except.mapError]

/-- A successful save wrote the text of the configuration at the path, into the tree its
directories were made in. -/
theorem save_eq_ok {codec : Codec} {c : Config} {t t' : Tree} {path : String}
    (h : c.saveWith codec t path = .ok t') :
    ∃ t₀ : Tree, t₀.writeFile path (Utf8.bytes (c.toText codec)).toList = .ok t' := by
  unfold saveWith at h
  dsimp only at h
  cases hp : parentOf path with
  | none =>
    rw [hp] at h
    exact ⟨t, eq_ok_of_mapError h⟩
  | some dir =>
    rw [hp] at h
    cases hc : t.createDirs dir with
    | error e => simp [hc, Except.mapError, bind, Except.bind] at h
    | ok t₀ =>
      simp only [hc, Except.mapError, bind, Except.bind] at h
      exact ⟨t₀, eq_ok_of_mapError h⟩

/-- Loading from a file that holds a text reads the text as a configuration. -/
theorem load_of_readFile (codec : Codec) {t : Tree} {path text : String}
    (hx : t.pathExists path = true) (hr : t.readFile path = .ok (Utf8.bytes text).toList)
    (env : List (String × String)) (stdin : List UInt8) :
    loadWith codec (t.host env stdin) path = (ofText codec text).mapError .config := by
  simp only [loadWith, Tree.host, hx, hr]
  -- a run in `Id`: the path exists, the file holds the bytes of the text, which decode to it
  change Id.run _ = _
  rw [Id.run_bind, if_neg (by decide), Id.run_bind]
  simp only [Id.run, decodeString?_bytes]
  rfl

/-! ### A save next to the working directory -/

theorem splitOn_fileName : "uitc.toml".splitOn "/" = ["uitc.toml"] := by
  unfold String.splitOn
  simp +decide only [if_neg]
  repeat (rw [String.splitOnAux]; simp +decide only [if_neg, if_pos])

theorem splitOn_empty : "".splitOn "/" = [""] := by
  unfold String.splitOn
  simp +decide only [if_neg]
  rw [String.splitOnAux]
  simp +decide only

/-- The empty path names the working directory, which exists: making its directories changes
nothing. -/
theorem createDirs_here (t : Tree) : t.createDirs "" = .ok t := by
  simp [Tree.createDirs, Tree.start, splitOn_empty, pure, Except.pure, Except.map]

theorem parentOf_fileName : parentOf fileName = some "" := by
  have habs : isAbsolute "uitc.toml" = false := by decide +kernel
  simp [parentOf, pathParts, splitOn_fileName, habs, fileName]

theorem start_fileName (t : Tree) : t.start "uitc.toml" = (t.cwd, ["uitc.toml"]) := by
  simp [Tree.start, splitOn_fileName]

/-- Saving to the file name in an empty tree puts the text there. -/
theorem save_fileName (c : Config) :
    c.save Tree.empty fileName =
      .ok (Tree.empty.put [fileName] (.file (Utf8.bytes (c.toText codec)).toList)) := by
  have hw : Tree.empty.writeFile fileName (Utf8.bytes (c.toText codec)).toList =
      .ok (Tree.empty.put [fileName] (.file (Utf8.bytes (c.toText codec)).toList)) := by
    simp [Tree.writeFile, start_fileName, fileName, Tree.walk, Tree.lookup, Tree.empty, Tree.within,
      bind, Except.bind]
  simp only [save, saveWith, parentOf_fileName, createDirs_here, Except.mapError, bind,
    Except.bind, hw]

/-! ### Load after save -/

/-- With a TOML library that reads back every document of sections it writes, wherever a save
succeeds, loading from the same path gives the configuration saved, and so the same keyword
set. -/
theorem load_after_save (codec : Codec) (hcodec : codec.RoundTrips) (c : Config) (t t' : Tree)
    (path : String) (env : List (String × String)) (stdin : List UInt8)
    (h : c.saveWith codec t path = .ok t') :
    loadWith codec (t'.host env stdin) path = .ok c ∧
      (loadWith codec (t'.host env stdin) path).map keywordSet = .ok c.keywordSet := by
  obtain ⟨t₀, hw⟩ := save_eq_ok h
  obtain ⟨hx, hr⟩ := Tree.readFile_of_writeFile hw
  have hload : loadWith codec (t'.host env stdin) path = .ok c := by
    rw [load_of_readFile codec hx hr, ofText_toText hcodec]
    rfl
  exact ⟨hload, by rw [hload]; rfl⟩

/-- With this library's TOML writer and reader, a configuration saved next to the working
directory of an empty tree loads back. -/
theorem load_after_save_flat :
    codec.RoundTrips ∧ ∃ t', save ⟨some ["let"], .json⟩ Tree.empty fileName = .ok t' ∧
      load (t'.host [] []) fileName = .ok ⟨some ["let"], .json⟩ :=
  ⟨codec_roundTrips, _, save_fileName _,
    (load_after_save codec codec_roundTrips _ _ _ _ [] [] (save_fileName _)).1⟩

/-- Where a directory stands at the path, the directories above it are there already, yet the
save fails: the file cannot be written over the directory. -/
theorem save_over_directory :
    parentOf "dir" = some "" ∧
      (Tree.empty.put ["dir"] .dir).createDirs "" = .ok (Tree.empty.put ["dir"] .dir) ∧
      save ⟨some ["let"], .json⟩ (Tree.empty.put ["dir"] .dir) "dir" = .error (.io .isADirectory) := by
  have hsplit : "dir".splitOn "/" = ["dir"] := by
    unfold String.splitOn
    simp +decide only [if_neg]
    repeat (rw [String.splitOnAux]; simp +decide only [if_neg, if_pos])
  have habs : isAbsolute "dir" = false := by decide +kernel
  have hparent : parentOf "dir" = some "" := by simp [parentOf, pathParts, hsplit, habs]
  refine ⟨hparent, createDirs_here _, ?_⟩
  simp [save, saveWith, hparent, createDirs_here, Except.mapError, bind, Except.bind, Tree.writeFile,
    Tree.start, hsplit, Tree.walk, Tree.lookup, Tree.put, Tree.empty, Tree.within, List.lookup_cons]

end Config

end ExprLexer
