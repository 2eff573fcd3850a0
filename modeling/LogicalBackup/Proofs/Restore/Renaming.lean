import LogicalBackup.Dump.Plan
import LogicalBackup.Proofs.Dump.Sections
import LogicalBackup.Proofs.Restore.Preamble

/-!
# Renaming the database of a dump

The statements that create and choose a database quote its name, with backticks written twice, and
may hold white space in it.  A mapping looks up what stands between the first backtick and the last
one, and puts the new name there as it is.  So a dump is restored under another name just when the
name has neither white space nor backticks, and the new one no backticks (`renames_iff`).
-/

namespace LogicalBackup

/-! ## Statements -/

namespace DatabaseMapping

variable {m : DatabaseMapping}

theorem cutEnd_append (statement : Bytes) :
    (cutEnd statement).1 ++ (cutEnd statement).2 = statement := by
  unfold cutEnd
  split_ifs with h
  · exact List.dropLast_append_getLast? _ h
  · exact List.append_nil _

theorem cutEnd_snd (statement : Bytes) :
    (cutEnd statement).2 = [] ∨ (cutEnd statement).2 = [Byte.lineFeed] := by
  unfold cutEnd
  split_ifs
  · exact .inr rfl
  · exact .inl rfl

/-- A line is rewritten as its characters are. -/
theorem renamed?_line (l : String) :
    m.renamed? (Lines.bytes [l]) = do
      let found ← Preamble.locate l.toList
      let name ← m.get? (String.ofList found.name)
      return Lines.bytes [found.rename name] := by
  have cut : cutEnd (Lines.bytes [l]) = (utf8 l, [Byte.lineFeed]) := by
    simp [Lines.bytes_singleton, cutEnd]
  simp only [Lines.bytes_singleton] at cut ⊢
  unfold renamed?
  rw [cut]
  dsimp only
  rw [text?_utf8]
  by_cases empty : m.names = []
  · simp [isEmpty, get?, empty]
  · simp [isEmpty, empty]

/-- A statement that begins with neither keyword is not rewritten. -/
theorem renamed?_eq_none {st : Bytes} {c : Char} (ascii : c.toNat < 128)
    (hst : st.head? = some (asciiByte c)) (feed : c ≠ '\n') (hc : Text.foldCase c ≠ 'C')
    (hu : Text.foldCase c ≠ 'U') : m.renamed? st = none := by
  unfold renamed?
  split_ifs with empty
  · rfl
  cases htext : (cutEnd st).1.text? with
  | none => simp [htext]
  | some text =>
    have split := cutEnd_append st
    rw [← utf8_of_text? htext] at split
    have start : text.toList.head? = some c := by
      cases hcs : text.toList with
      | nil =>
        rw [(utf8_eq_nil_iff text).2 hcs, List.nil_append] at split
        rw [← split] at hst
        rcases cutEnd_snd st with e | e
        · simp [e] at hst
        · rw [e, List.head?_cons, Option.some.injEq] at hst
          exact absurd (asciiByte_inj (c := '\n') (by decide) ascii hst).symm feed
      | cons d cs =>
        rw [utf8, hcs, List.flatMap_cons, List.append_assoc] at split
        rw [← split, List.head?_append_of_ne_nil _ String.utf8EncodeChar_ne_nil] at hst
        rw [List.head?_cons, (head?_utf8EncodeChar_eq_iff ascii).1 hst]
    obtain ⟨cs, hcs⟩ := List.head?_eq_some_iff.1 start
    simp [htext, hcs, Preamble.locate_eq_none hc hu]

end DatabaseMapping

/-! ## Names as they are -/

theorem length_le_flatMap_identifierChar (cs : List Char) :
    cs.length ≤ (cs.flatMap identifierChar).length := by
  induction cs with
  | nil => exact le_rfl
  | cons c cs ih =>
    rw [List.flatMap_cons, List.length_append, List.length_cons]
    have one : 1 ≤ (identifierChar c).length := by
      unfold identifierChar
      split_ifs <;> simp
    omega

/-- A name stands between its backticks as it is just when it has none itself. -/
theorem flatMap_identifierChar_eq_self_iff (cs : List Char) :
    cs.flatMap identifierChar = cs ↔ backtick ∉ cs := by
  induction cs with
  | nil => simp
  | cons c cs ih =>
    rw [List.flatMap_cons, List.mem_cons, not_or, ← ih]
    by_cases hc : c = backtick
    · have := length_le_flatMap_identifierChar cs
      constructor
      · intro h
        have := congrArg List.length h
        simp only [identifierChar, hc, if_true, List.length_append, List.length_cons,
          List.length_nil] at this
        omega
      · exact fun h => absurd hc.symm h.1
    · simp [identifierChar, hc, Ne.symm hc]

/-- A name that the restore of a dump finds as it is. -/
def IsBareName (name : String) : Prop :=
  ∀ c ∈ name.toList, Text.isBlank c = false ∧ c ≠ backtick

instance (name : String) : Decidable (IsBareName name) :=
  inferInstanceAs (Decidable (∀ c ∈ name.toList, _))

/-- Only this database is renamed. -/
def DatabaseMapping.single (source destination : String) : DatabaseMapping :=
  { names := [(source, destination)] }

theorem DatabaseMapping.get?_single (source destination name : String) :
    (single source destination).get? name = if name = source then some destination else none := by
  unfold get? single
  rw [List.lookup_cons]
  by_cases h : name = source
  · simp [h]
  · rw [if_neg h, beq_false_of_ne h]
    rfl

open Preamble DatabaseMapping Section

theorem toList_chooseDatabase (name : String) :
    (chooseDatabase name).toList =
      "USE `".toList ++ (name.toList.flatMap identifierChar ++ [backtick, ';']) := by
  simp only [chooseDatabase, quoteIdentifier, String.toList_append, String.toList_ofList,
    List.append_assoc]
  rfl

theorem locate_chooseDatabase (name : String) :
    locate (chooseDatabase name).toList =
      (takeName isEnd [] (name.toList.flatMap identifierChar ++ [backtick, ';'])).map
        fun (found, after) => { before := "USE `".toList, name := found, after } := by
  rw [toList_chooseDatabase]
  rfl

/-- What becomes of the statement that chooses a database. -/
theorem renamed?_chooseDatabase {s : String} (ne : s.toList ≠ []) (d : String) :
    (single s d).renamed? (Lines.bytes [chooseDatabase s]) =
      if IsBareName s then some (Lines.bytes ["USE `" ++ d ++ "`;"]) else none := by
  rw [renamed?_line, locate_chooseDatabase, takeName_isEnd]
  by_cases quoted : backtick ∈ s.toList
  · have other : s.toList.flatMap identifierChar ≠ s.toList := by
      rw [ne_eq, flatMap_identifierChar_eq_self_iff, not_not]
      exact quoted
    have bare : ¬ IsBareName s := fun h => (h _ quoted).2 rfl
    rw [if_neg bare]
    split_ifs
    · have miss : String.ofList (s.toList.flatMap identifierChar) ≠ s := by
        intro e
        exact other (by rw [← String.toList_ofList (l := s.toList.flatMap _), e])
      simp [get?_single, miss]
    · rfl
  · rw [(flatMap_identifierChar_eq_self_iff s.toList).2 quoted]
    by_cases bare : IsBareName s
    · rw [if_pos ⟨ne, fun c hc => (bare c hc).1⟩, if_pos bare]
      have line : rename ⟨"USE `".toList, s.toList, [backtick, ';']⟩ d = "USE `" ++ d ++ "`;" := by
        simp only [rename, String.ofList_append, String.ofList_toList]
        rfl
      simp only [Option.map_some, Option.bind_eq_bind, Option.bind_some, String.ofList_toList,
        get?_single, if_true, line]
      rfl
    · rw [if_neg bare, if_neg]
      · rfl
      · rintro ⟨-, blank⟩
        exact bare fun c hc => ⟨blank c hc, fun e => quoted (e ▸ hc)⟩

/-- What follows the name in the statement that creates a database. -/
def databaseSettings (server : ServerInfo) : String :=
  " /*!40100 DEFAULT CHARACTER SET " ++ server.charset ++
    (if server.collation.isEmpty then "" else " COLLATE " ++ server.collation) ++ " */;"

theorem toList_createDatabase (name : String) (server : ServerInfo) :
    (createDatabase name server).toList =
      "CREATE DATABASE /*!32312 IF NOT EXISTS*/ `".toList ++
        (name.toList.flatMap identifierChar ++ backtick :: (databaseSettings server).toList) := by
  have opening : "CREATE DATABASE /*!32312 IF NOT EXISTS*/ `".toList =
      "CREATE DATABASE /*!32312 IF NOT EXISTS*/ ".toList ++ [backtick] := by decide
  have mark : "`".toList = [backtick] := rfl
  unfold createDatabase databaseSettings quoteIdentifier
  simp only [String.toList_append, String.toList_ofList, List.append_assoc, opening, mark,
    List.cons_append, List.nil_append]

theorem exists_databaseSettings_eq {server : ServerInfo}
    (charset : ∀ c ∈ server.charset.toList, c ≠ '\n' ∧ c ≠ backtick)
    (collation : ∀ c ∈ server.collation.toList, c ≠ '\n' ∧ c ≠ backtick) :
    ∃ x, (databaseSettings server).toList = ' ' :: '/' :: '*' :: (x ++ ['*', '/', ';']) ∧
      '\n' ∉ x ∧ backtick ∉ x := by
  have opening : " /*!40100 DEFAULT CHARACTER SET ".toList =
      ' ' :: '/' :: '*' :: "!40100 DEFAULT CHARACTER SET ".toList := by decide
  have ending : " */;".toList = [' ', '*', '/', ';'] := by decide
  have free (c : Char) (h : c ∉ "!40100 DEFAULT CHARACTER SET ".toList ++ " COLLATE ".toList)
      (hs : c ∉ server.charset.toList) (hn : c ∉ server.collation.toList) :
      c ∉ "!40100 DEFAULT CHARACTER SET ".toList ++ (server.charset.toList ++
        ((if server.collation.isEmpty then "" else " COLLATE " ++ server.collation).toList ++
          [' '])) := by
    rw [List.mem_append, not_or] at h
    have space : c ≠ ' ' := fun e => h.2 (e ▸ by decide)
    by_cases empty : server.collation.isEmpty
    · simp [-String.reduceToList, empty, h, hs, space]
    · simp [-String.reduceToList, empty, h, hs, hn, space]
  refine ⟨_, ?_, free '\n' (by decide) (fun h => (charset _ h).1 rfl) fun h =>
    (collation _ h).1 rfl, free backtick (by decide) (fun h => (charset _ h).2 rfl) fun h =>
    (collation _ h).2 rfl⟩
  unfold databaseSettings
  simp only [String.toList_append, List.append_assoc, opening, ending, List.cons_append,
    List.nil_append]

/-- The statement that creates a database is cut at its name, whatever comments the name has. -/
theorem locate_createDatabase {name : String} {server : ServerInfo} (ne : name.toList ≠ [])
    (bare : IsBareName name) (charset : ∀ c ∈ server.charset.toList, c ≠ '\n' ∧ c ≠ backtick)
    (collation : ∀ c ∈ server.collation.toList, c ≠ '\n' ∧ c ≠ backtick) :
    locate (createDatabase name server).toList = some {
      before := "CREATE DATABASE /*!32312 IF NOT EXISTS*/ `".toList
      name := name.toList
      after := backtick :: (databaseSettings server).toList } := by
  obtain ⟨x, hx, feed, mark⟩ := exists_databaseSettings_eq charset collation
  have plain : backtick ∉ name.toList := fun h => (bare _ h).2 rfl
  have ending : isCreateEnd (databaseSettings server).toList = true := by
    have comment := isCommentEnd_iff.2 ⟨x, [], feed, nofun, rfl⟩
    rw [hx, isCreateEnd, Bool.or_eq_true]
    exact .inr comment
  have unmarked : backtick ∉ (databaseSettings server).toList := by
    rw [hx]
    have h1 : backtick ≠ ' ' := by decide
    have h2 : backtick ≠ '/' := by decide
    have h3 : backtick ≠ '*' := by decide
    have h4 : backtick ≠ ';' := by decide
    simp [h1, h2, h3, h4, mark]
  rw [toList_createDatabase, (flatMap_identifierChar_eq_self_iff name.toList).2 plain]
  generalize (databaseSettings server).toList = t at ending unmarked
  have start : locateCreate ("CREATE DATABASE /*!32312 IF NOT EXISTS*/ `".toList ++
      (name.toList ++ backtick :: t)) =
      takeAfterComment isCreateEnd "CREATE DATABASE /*".toList.reverse
        ("!32312 IF NOT EXISTS".toList ++
          '*' :: '/' :: ([' '] ++ backtick :: (name.toList ++ backtick :: t))) := rfl
  rw [locate, start, takeAfterComment_comment (by decide) (by decide) ne
    (fun c hc => (bare c hc).1) plain ending unmarked]
  rfl

theorem renamed?_createDatabase {s : String} {server : ServerInfo} (ne : s.toList ≠ [])
    (bare : IsBareName s) (charset : ∀ c ∈ server.charset.toList, c ≠ '\n' ∧ c ≠ backtick)
    (collation : ∀ c ∈ server.collation.toList, c ≠ '\n' ∧ c ≠ backtick) {d : String}
    (hd : backtick ∉ d.toList) :
    (single s d).renamed? (Lines.bytes [createDatabase s server]) =
      some (Lines.bytes [createDatabase d server]) := by
  have line : rename ⟨"CREATE DATABASE /*!32312 IF NOT EXISTS*/ `".toList, s.toList,
      backtick :: (databaseSettings server).toList⟩ d = createDatabase d server := by
    rw [← String.toList_inj, toList_createDatabase, (flatMap_identifierChar_eq_self_iff _).2 hd,
      rename, String.toList_ofList, List.append_assoc]
  rw [renamed?_line, locate_createDatabase ne bare charset collation]
  simp only [Option.bind_eq_bind, Option.bind_some, String.ofList_toList, get?_single, if_true,
    line]
  rfl

theorem eq_chooseDatabase_iff (d : String) :
    "USE `" ++ d ++ "`;" = chooseDatabase d ↔ backtick ∉ d.toList := by
  have ending : "`;".toList = [backtick, ';'] := rfl
  rw [← String.toList_inj, toList_chooseDatabase, String.toList_append, String.toList_append,
    List.append_assoc, ending, List.append_cancel_left_eq, List.append_cancel_right_eq, eq_comm]
  exact flatMap_identifierChar_eq_self_iff d.toList

theorem IsBareName.feedless {name : String} (h : IsBareName name) :
    ∀ c ∈ name.toList, c ≠ '\n' ∧ c ≠ '\r' := by
  intro c hc
  have blank := (h c hc).1
  constructor
  · rintro rfl
    exact absurd blank (by decide)
  · rintro rfl
    exact absurd blank (by decide)

/-- A statement that begins with a comment is not rewritten. -/
theorem renamed?_comment {m : DatabaseMapping} {l : String}
    (h : l.toList.head? = some '-' ∨ l.toList.head? = some '/') (rest : Lines) :
    m.renamed? (Lines.bytes (l :: rest)) = none := by
  have start {c : Char} (ascii : c.toNat < 128) (hc : l.toList.head? = some c) :
      (Lines.bytes (l :: rest)).head? = some (asciiByte c) := by
    obtain ⟨cs, hcs⟩ := List.head?_eq_some_iff.1 hc
    rw [← List.singleton_append, Lines.bytes_append, Lines.bytes_singleton, utf8, hcs,
      List.flatMap_cons, utf8EncodeChar_of_lt ascii]
    rfl
  rcases h with h | h
  · exact renamed?_eq_none (by decide) (start (by decide) h) (by decide) (by decide) (by decide)
  · exact renamed?_eq_none (by decide) (start (by decide) h) (by decide) (by decide) (by decide)

/-- The header of a dump of `s` is restored as one of `d`: just the statements that create and
choose the database are rewritten, and they become those of `d`. -/
def Renames (style : DumpStyle) (server : ServerInfo) (s d : String) : Prop :=
  ∃ others : List Bytes,
    SplitsInto (Lines.bytes (header style s server true))
      (others ++ [Lines.bytes [createDatabase s server], Lines.bytes [chooseDatabase s]]) [] ∧
    (∀ st ∈ others, (single s d).renamed? st = none) ∧
    (single s d).renamed? (Lines.bytes [createDatabase s server]) =
      some (Lines.bytes [createDatabase d server]) ∧
    (single s d).renamed? (Lines.bytes [chooseDatabase s]) = some (Lines.bytes [chooseDatabase d])

/-- Databases can be renamed just between names that stand between backticks as they are. -/
theorem renames_iff (style : DumpStyle) {s d : String} {server : ServerInfo}
    (hs : Dump.schemaNameFault? s = none)
    (charset : ∀ c ∈ server.charset.toList, Text.isWord c = true)
    (collation : ∀ c ∈ server.collation.toList, Text.isWord c = true)
    (version : ∀ c ∈ server.version.toList, c ≠ '\n' ∧ c ≠ '\r' ∧ c ≠ ';') :
    Renames style server s d ↔ IsBareName s ∧ backtick ∉ d.toList := by
  have ne : s.toList ≠ [] := by
    rintro empty
    have : s = "" := String.toList_inj.1 empty
    rw [this] at hs
    cases hs
  have word {c : Char} (h : Text.isWord c = true) : c ≠ '\n' ∧ c ≠ backtick := by
    constructor
    · rintro rfl
      exact absurd h (by decide)
    · rintro rfl
      exact absurd h (by decide)
  have version' : EndsLine server.version :=
    ⟨fun h => (version _ h).1 rfl, fun c hc => (version c (List.mem_of_getLast? hc)).2⟩
  have charset' := fun c hc => word (charset c hc)
  have collation' := fun c hc => word (collation c hc)
  constructor
  · rintro ⟨-, -, -, -, choose⟩
    rw [renamed?_chooseDatabase ne] at choose
    split_ifs at choose with bare
    refine ⟨bare, (eq_chooseDatabase_iff d).1 ?_⟩
    rw [Option.some.injEq, Lines.bytes_singleton, Lines.bytes_singleton] at choose
    exact utf8_injective (List.append_cancel_right choose)
  · rintro ⟨bare, hd⟩
    obtain ⟨others, cut, quiet⟩ := exists_cut_header style bare.feedless
      (fun h => (charset' _ h).1 rfl) (fun h => (collation' _ h).1 rfl) version'
    refine ⟨others.map Lines.bytes, ?_, ?_, ?_, ?_⟩
    · have split := cut.forms.splitsInto
      rwa [List.map_append] at split
    · intro st hst
      obtain ⟨lines, hlines, rfl⟩ := List.mem_map.1 hst
      obtain ⟨l, rest, rfl, start⟩ := quiet lines hlines
      exact renamed?_comment start rest
    · exact renamed?_createDatabase ne bare charset' collation' hd
    · rw [renamed?_chooseDatabase ne, if_pos bare, (eq_chooseDatabase_iff d).2 hd]

theorem renames_between_plain_names :
    Dump.schemaNameFault? "shop" = none ∧
      Renames .full { version := "8.0.36", charset := "utf8mb4", collation := "utf8mb4_bin" }
        "shop" "other shop" :=
  ⟨by decide, (renames_iff .full (by decide) (by decide) (by decide) (by decide)).2
    ⟨by decide, by decide⟩⟩

theorem not_renames_from_backtick :
    Dump.schemaNameFault? "we`ird" = none ∧ Dump.schemaNameFault? "other" = none ∧
      (single "we`ird" "other").renamed? (Lines.bytes [chooseDatabase "we`ird"]) = none ∧
      ¬ Renames .compact { version := "8.0.36", charset := "utf8mb4", collation := "" }
        "we`ird" "other" := by
  have miss : (single "we`ird" "other").renamed? (Lines.bytes [chooseDatabase "we`ird"]) = none := by
    rw [renamed?_chooseDatabase (by decide), if_neg (by decide)]
  refine ⟨by decide, by decide, miss, ?_⟩
  rintro ⟨-, -, -, -, choose⟩
  rw [miss] at choose
  cases choose

end LogicalBackup
