import ShadeGraph.Proofs.Commands

/-!
# Where shaders go

Without a path a shader goes into the configured directory, by the stem of its design's file. The stem loses what
follows its own last dot before the extension is put on, so designs whose stems differ only there get the same path.
-/

namespace ShadeGraph

namespace Path

/-! ## Stems -/

theorem passes_reverse {stop : Char} {text : List Char} (h : stop ∉ text) :
    ∀ c ∈ text.reverse, decide (c ≠ stop) = true := by
  intro c hMem
  apply decide_eq_true
  rintro rfl
  exact h (List.mem_reverse.mp hMem)

theorem stemOf_append {stem extension : List Char} (hStem : stem ≠ []) (h : '.' ∉ extension) :
    stemOf (stem ++ '.' :: extension) = stem := by
  have hCut : ((stem ++ '.' :: extension).reverse.dropWhile (· ≠ '.')).reverse = stem ++ ['.'] := by
    rw [List.reverse_append, List.reverse_cons, List.append_assoc, List.dropWhile_append_of_pos (passes_reverse h)]
    simp
  unfold stemOf
  rw [hCut]
  split
  · rename_i hNil
    simp at hNil
  · rename_i hDot
    simp [hStem] at hDot
  · exact List.dropLast_concat

theorem stemOf_of_not_mem_tail {name : List Char} (h : '.' ∉ name.tail) : stemOf name = name := by
  cases name with
  | nil => rfl
  | cons first rest =>
    have hPass := passes_reverse (show '.' ∉ rest from h)
    unfold stemOf
    rw [List.reverse_cons, List.dropWhile_append_of_pos hPass]
    by_cases hFirst : first = '.'
    · simp [hFirst]
    · simp [hFirst]

theorem exists_stem {name : List Char} (h : '.' ∈ name.tail) :
    ∃ stem extension, stem ≠ [] ∧ '.' ∉ extension ∧ name = stem ++ '.' :: extension := by
  cases name with
  | nil => cases h
  | cons first rest =>
    obtain ⟨extension, stem, hRest, hDot⟩ := List.eq_append_cons_of_mem (List.mem_reverse.mpr h)
    refine ⟨first :: stem.reverse, extension.reverse, List.cons_ne_nil _ _, by simpa using hDot, ?_⟩
    have hReverse := congrArg List.reverse hRest
    simp only [List.tail_cons, List.reverse_reverse, List.reverse_append, List.reverse_cons, List.append_assoc,
      List.singleton_append] at hReverse
    rw [hReverse, List.cons_append]

theorem stemOf_eq_self_iff {name : List Char} : stemOf name = name ↔ '.' ∉ name.tail := by
  refine ⟨?_, stemOf_of_not_mem_tail⟩
  intro hSame hDot
  obtain ⟨stem, extension, hStem, hExtension, rfl⟩ := exists_stem hDot
  rw [stemOf_append hStem hExtension] at hSame
  have hLength := congrArg List.length hSame
  simp at hLength

theorem stemOf_isPrefix (name : List Char) : stemOf name <+: name := by
  by_cases hDot : '.' ∈ name.tail
  · obtain ⟨stem, extension, hStem, hExtension, rfl⟩ := exists_stem hDot
    rw [stemOf_append hStem hExtension]
    exact List.prefix_append _ _
  · rw [stemOf_of_not_mem_tail hDot]

theorem stemOf_ne_nil {name : List Char} (h : name ≠ []) : stemOf name ≠ [] := by
  by_cases hDot : '.' ∈ name.tail
  · obtain ⟨stem, extension, hStem, hExtension, rfl⟩ := exists_stem hDot
    rwa [stemOf_append hStem hExtension]
  · rwa [stemOf_of_not_mem_tail hDot]

/-! ## Names in a directory -/

/-- A name as it can stand between slashes. -/
structure IsName (name : List Char) : Prop where
  ne_nil : name ≠ []
  slash : '/' ∉ name

theorem isName_of_fileStem? {input stem : String} (h : fileStem? input = some stem) : IsName stem.toList := by
  obtain ⟨name, hName, rfl⟩ := Option.map_eq_some_iff.mp h
  simp only [fileName?] at hName
  split at hName
  · cases hName
  · rename_i hSome
    cases hName
    simp only [Bool.or_eq_true, List.isEmpty_iff, not_or] at hSome
    rw [String.toList_ofList]
    refine ⟨stemOf_ne_nil hSome.1.1, ?_⟩
    intro hSlash
    have hMem := (stemOf_isPrefix _).subset hSlash
    rw [split, List.mem_reverse] at hMem
    have hNot := List.mem_takeWhile_imp hMem
    simp at hNot

/-- What stands before a name that is joined to a directory. -/
def before (dir : String) : List Char :=
  if dir.isEmpty then []
  else if dir.toList.getLast? = some '/' then dir.toList
  else dir.toList ++ ['/']

theorem before_cases (dir : String) : before dir = [] ∨ ∃ rest, before dir = rest ++ ['/'] := by
  unfold before
  split
  · exact .inl rfl
  · split
    · rename_i hLast
      exact .inr (List.getLast?_eq_some_iff.mp hLast)
    · exact .inr ⟨_, rfl⟩

theorem toList_join (dir : String) {name : String} (h : '/' ∉ name.toList) :
    (join dir name).toList = before dir ++ name.toList := by
  have hRoot : startsAtRoot name = false := by
    rw [startsAtRoot, decide_eq_false_iff_not]
    exact fun hHead => h (List.mem_of_mem_head? hHead)
  unfold join before
  rw [hRoot, Bool.false_or]
  split
  · rfl
  · split <;> simp [String.toList_append]

theorem dropTail_eq_self {path : List Char} (hSlash : path.head? ≠ some '/')
    (hDot : ∀ rest, path ≠ '.' :: '/' :: rest) : dropTail path = path := by
  unfold dropTail
  split
  · exact absurd rfl hSlash
  · rename_i rest
    exact absurd rfl (hDot rest)
  · rfl

theorem length_dropTail_le (path : List Char) : (dropTail path).length ≤ path.length := by
  fun_induction dropTail path with
  | case1 c rest ih => exact ih.trans (Nat.le_succ _)
  | case2 rest ih => exact ih.trans (Nat.le_succ _)
  | case3 path => exact Nat.le_refl _

section

variable {dir : String} {name : String} (hName : IsName name.toList) (hDot : name ≠ ".")

include hName hDot

theorem trimmed_join : trimmed (join dir name) = (join dir name).toList := by
  have hSelf : dropTail (join dir name).toList.reverse = (join dir name).toList.reverse := by
    rw [toList_join dir hName.slash, List.reverse_append]
    obtain ⟨last, rest, hReverse⟩ := List.exists_cons_of_ne_nil (List.reverse_ne_nil_iff.mpr hName.ne_nil)
    have hMem {c : Char} (h : c ∈ last :: rest) : c ∈ name.toList := List.mem_reverse.mp (hReverse ▸ h)
    rw [hReverse]
    apply dropTail_eq_self
    · intro hSlash
      cases hSlash
      exact hName.slash (hMem List.mem_cons_self)
    · intro tail hTail
      obtain ⟨rfl, hRest⟩ := List.cons.inj hTail
      cases rest with
      | nil =>
        exact hDot (String.toList_inj.mp (List.reverse_eq_iff.mp hReverse))
      | cons c rest =>
        obtain ⟨rfl, -⟩ := List.cons.inj hRest
        exact hName.slash (hMem (by simp))
  rw [trimmed, hSelf, List.reverse_reverse]

theorem split_join : split (join dir name) = (before dir, name.toList) := by
  have hPass := passes_reverse hName.slash
  have hStop : (before dir).reverse.takeWhile (· ≠ '/') = [] ∧
      (before dir).reverse.dropWhile (· ≠ '/') = (before dir).reverse := by
    rcases before_cases dir with hNone | ⟨rest, hRest⟩
    · simp [hNone]
    · simp [hRest]
  rw [split, trimmed_join hName hDot, toList_join dir hName.slash, List.reverse_append,
    List.dropWhile_append_of_pos hPass, List.takeWhile_append_of_pos hPass, hStop.1, hStop.2]
  simp

end

/-- What becomes of a name when its extension is replaced. -/
def retitled (name : List Char) (extension : String) : List Char :=
  if stemOf name = ['.'] then ['.', '.'] else stemOf name ++ '.' :: extension.toList

theorem toList_withExtension_join (dir : String) {name : String} (hName : IsName name.toList) (hDot : name ≠ ".")
    (extension : String) :
    (withExtension (join dir name) extension).toList = before dir ++ retitled name.toList extension := by
  have hSplit : split (join dir name) = (before dir, name.toList) := split_join hName hDot
  by_cases hDots : name.toList = ['.', '.']
  · have hNone : fileName? (join dir name) = none := by simp [fileName?, hSplit, hDots]
    have hStem : stemOf ['.', '.'] = ['.'] := rfl
    rw [withExtension, hNone, toList_join dir hName.slash, retitled, hDots, if_pos hStem]
  · have hSingle : name.toList ≠ ['.'] := by
      intro hSame
      exact hDot (String.toList_inj.mp hSame)
    have hSome : fileName? (join dir name) = some name.toList := by
      simp [fileName?, hSplit, hDots, hSingle, hName.ne_nil]
    rw [withExtension, hSome]
    simp only [hSplit, trimmed_join hName hDot, decide_true, Bool.and_true, decide_eq_true_eq]
    by_cases hStem : stemOf name.toList = ['.']
    · rw [if_pos hStem, String.toList_ofList, retitled, if_pos hStem]
    · rw [if_neg hStem, retitled, if_neg hStem]
      simp [String.toList_append]

theorem dots_ne_append (stem : List Char) : ['.', '.'] ≠ stem ++ ".shader".toList := by
  intro hSame
  have hLength := congrArg List.length hSame
  simp at hLength

theorem retitled_inj {name name' : List Char} :
    retitled name "shader" = retitled name' "shader" ↔ stemOf name = stemOf name' := by
  constructor
  · intro hSame
    unfold retitled at hSame
    split at hSame <;> split at hSame
    · rename_i hDot hDot'
      rw [hDot, hDot']
    · exact absurd hSame (dots_ne_append _)
    · exact absurd hSame.symm (dots_ne_append _)
    · exact List.append_cancel_right hSame
  · intro hSame
    rw [retitled, retitled, hSame]

theorem retitled_eq_append_iff {name : List Char} (hDot : name ≠ ['.']) :
    retitled name "shader" = name ++ ".shader".toList ↔ stemOf name = name := by
  constructor
  · intro hSame
    unfold retitled at hSame
    split at hSame
    · exact absurd hSame (dots_ne_append _)
    · exact List.append_cancel_right hSame
  · intro hSame
    rw [retitled, hSame, if_neg hDot]
    rfl

theorem split_append (path : String) : (split path).1 ++ (split path).2 = trimmed path := by
  rw [split, ← List.reverse_append, List.takeWhile_append_dropWhile, List.reverse_reverse]

theorem length_trimmed_join_dot {dir : String} {rest : List Char} (h : before dir = rest ++ ['/']) :
    (trimmed (join dir ".")).length ≤ (before dir).length := by
  have hReverse : (join dir ".").toList.reverse = '.' :: '/' :: rest.reverse := by
    rw [toList_join dir (by decide), h]
    simp
  rw [trimmed, hReverse, dropTail, List.length_reverse, h]
  simpa using length_dropTail_le ('/' :: rest.reverse)

/-- A single dot is the directory itself, whose own name gets the extension: nothing is put below it. -/
theorem toList_withExtension_join_dot (dir extension : String) :
    withExtension (join dir ".") extension = join dir "." ∨
      ∃ start, (withExtension (join dir ".") extension).toList = start ++ '.' :: extension.toList ∧
        start.length ≤ (before dir).length := by
  have hJoin : (join dir ".").toList = before dir ++ ['.'] := toList_join dir (by decide)
  cases hFile : fileName? (join dir ".") with
  | none => exact .inl (by rw [withExtension, hFile])
  | some name =>
    right
    rcases before_cases dir with hNone | ⟨rest, hRest⟩
    · have hAlone : join dir "." = "." := String.toList_inj.mp (by rw [hJoin, hNone]; rfl)
      have hNoName : fileName? "." = none := rfl
      rw [hAlone, hNoName] at hFile
      cases hFile
    · have hTrimmed := length_trimmed_join_dot hRest
      have hShorter : trimmed (join dir ".") ≠ (join dir ".").toList := by
        intro hSame
        rw [hSame, hJoin, List.length_append] at hTrimmed
        simp at hTrimmed
      have hName : (split (join dir ".")).2 = name := by
        simp only [fileName?] at hFile
        split at hFile
        · cases hFile
        · exact Option.some.inj hFile
      refine ⟨(split (join dir ".")).1 ++ stemOf name, ?_, ?_⟩
      · rw [withExtension, hFile]
        simp [hShorter, String.toList_append]
      · refine le_trans ?_ hTrimmed
        rw [← split_append, hName, List.length_append, List.length_append]
        exact Nat.add_le_add_left (stemOf_isPrefix name).length_le _

/-- What the directory itself is written to is none of the paths below it. -/
theorem withExtension_join_dot_ne (dir : String) {tail : List Char}
    (hTail : tail = ['.', '.'] ∨ ∃ stem, stem ≠ [] ∧ tail = stem ++ ".shader".toList) :
    (withExtension (join dir ".") "shader").toList ≠ before dir ++ tail := by
  intro hSame
  rcases toList_withExtension_join_dot dir "shader" with hJoin | ⟨start, hStart, hLength⟩
  · rw [hJoin, toList_join dir (by decide)] at hSame
    have hDot : ['.'] = tail := List.append_cancel_left hSame
    rcases hTail with rfl | ⟨stem, -, rfl⟩
    · cases hDot
    · have hLength := congrArg List.length hDot
      simp at hLength
  · rw [hStart] at hSame
    rcases hTail with rfl | ⟨stem, hStem, rfl⟩
    · have hLast := congrArg List.getLast? hSame
      simp at hLast
    · rw [← List.append_assoc] at hSame
      have hEq : start = before dir ++ stem := List.append_cancel_right hSame
      rw [hEq, List.length_append] at hLength
      have hPos := List.length_pos_iff.mpr hStem
      omega

theorem retitled_cases {name : List Char} (h : name ≠ []) : retitled name "shader" = ['.', '.'] ∨
    ∃ stem, stem ≠ [] ∧ retitled name "shader" = stem ++ ".shader".toList := by
  unfold retitled
  split
  · exact .inl rfl
  · exact .inr ⟨stemOf name, stemOf_ne_nil h, rfl⟩

/-- Two names give one path exactly if they agree up to their last dots; a single dot never takes part. -/
theorem withExtension_join_inj {dir name name' : String} (hName : IsName name.toList) (hName' : IsName name'.toList)
    (hNe : name ≠ name') :
    withExtension (join dir name) "shader" = withExtension (join dir name') "shader" ↔
      stemOf name.toList = stemOf name'.toList ∧ name ≠ "." ∧ name' ≠ "." := by
  rw [← String.toList_inj]
  by_cases hDot : name = "."
  · have hDot' : name' ≠ "." := fun hSame => hNe (hDot.trans hSame.symm)
    refine iff_of_false ?_ fun h => h.2.1 hDot
    rw [hDot, toList_withExtension_join dir hName' hDot']
    exact withExtension_join_dot_ne dir (retitled_cases hName'.ne_nil)
  · by_cases hDot' : name' = "."
    · refine iff_of_false ?_ fun h => h.2.2 hDot'
      rw [hDot', toList_withExtension_join dir hName hDot]
      exact (withExtension_join_dot_ne dir (retitled_cases hName.ne_nil)).symm
    · rw [toList_withExtension_join dir hName hDot, toList_withExtension_join dir hName' hDot',
        List.append_right_inj, retitled_inj]
      simp [hDot, hDot']

theorem withExtension_join_eq_iff {dir name : String} (hName : IsName name.toList) :
    withExtension (join dir name) "shader" = join dir (name ++ ".shader") ↔ '.' ∉ name.toList.tail ∧ name ≠ "." := by
  have hWhole : (join dir (name ++ ".shader")).toList = before dir ++ (name.toList ++ ".shader".toList) := by
    rw [toList_join, String.toList_append]
    rw [String.toList_append, List.mem_append, not_or]
    exact ⟨hName.slash, by decide⟩
  rw [← String.toList_inj, hWhole, ← stemOf_eq_self_iff]
  by_cases hDot : name = "."
  · refine iff_of_false ?_ fun h => h.2 hDot
    rw [hDot]
    exact withExtension_join_dot_ne dir (.inr ⟨_, by decide, rfl⟩)
  · have hSingle : name.toList ≠ ['.'] := fun hSame => hDot (String.toList_inj.mp hSame)
    rw [toList_withExtension_join dir hName hDot, List.append_right_inj, retitled_eq_append_iff hSingle]
    simp [hDot]

end Path

/-- The same access, with a list of all that was to be written where. -/
def FileAccess.recording {σ : Type} (files : FileAccess (StateM σ)) :
    FileAccess (StateM (σ × List (String × String))) where
  read path := fun s => ((files.read path s.1).1, (files.read path s.1).2, s.2)
  createDirs path := fun s => ((files.createDirs path s.1).1, (files.createDirs path s.1).2, s.2)
  write path content := fun s =>
    ((files.write path content s.1).1, (files.write path content s.1).2, s.2 ++ [(path, content)])

theorem FileAccess.read_recording {σ : Type} {files : FileAccess (StateM σ)} {s : σ} {input text : String}
    (h : (files.read input).run s = (.ok text, s)) (log : List (String × String)) :
    (files.recording.read input).run (s, log) = (.ok text, s, log) := by
  have hRead : files.read input s = (.ok text, s) := h
  change ((files.read input s).1, (files.read input s).2, log) = _
  rw [hRead]

namespace Command

/-! ## What is written -/

/-- What is written for a shader, each with its path. -/
def planned (shader : Shader) (out : String) (withManifest : Bool) : List (String × String) :=
  (out, shader.source) :: if withManifest then [(manifestPath out, manifest shader.bindings)] else []

/-- A recorded run that writes as planned, up to where it fails. -/
structure Writes {α σ : Type} (shader : Shader) (out : String) (withManifest : Bool)
    (result : Except CommandError α × σ × List (String × String)) : Prop where
  planned : result.2.2 <+: planned shader out withManifest
  complete : ∀ a, result.1 = .ok a → result.2.2 = Command.planned shader out withManifest
  nothing : result.2.2 = [] ↔ ∃ directory, directoryOf out = some directory ∧ result.1 = .error (.createDir directory)

section

variable {σ : Type} {files : FileAccess (StateM σ)} {s : σ} {shader : Shader} {out directory : String}
  {withManifest : Bool}

theorem writeShader_of_none (h : directoryOf out = none) :
    writeShader files shader (some out) withManifest = writeFiles files shader out withManifest := by
  simp only [writeShader, h]

theorem writeShader_of_some (h : directoryOf out = some directory) :
    writeShader files shader (some out) withManifest =
      (do require (← files.createDirs directory) (.createDir directory); writeFiles files shader out withManifest) := by
  simp only [writeShader, h]

theorem run_require {α : Type} (x : StateM σ Bool) (error : CommandError) (next : ExceptT CommandError (StateM σ) α)
    (s : σ) :
    (do require (← x) error; next : ExceptT CommandError (StateM σ) α).run.run s =
      if (x.run s).1 then next.run.run (x.run s).2 else (.error error, (x.run s).2) := by
  have hAccess : (liftM x : ExceptT CommandError (StateM σ) Bool).run.run s = (.ok (x.run s).1, (x.run s).2) := rfl
  rw [ExceptT.run_bind, StateT.run_bind, hAccess]
  cases (x.run s).1 <;> rfl

theorem Writes.of_begun {α : Type} {result : Except CommandError α × σ × List (String × String)}
    (hPlanned : result.2.2 <+: Command.planned shader out withManifest)
    (hComplete : ∀ a, result.1 = .ok a → result.2.2 = Command.planned shader out withManifest)
    (hBegun : result.2.2 ≠ []) (hError : ∀ directory, result.1 ≠ .error (.createDir directory)) :
    Writes shader out withManifest result := by
  refine ⟨hPlanned, hComplete, iff_of_false hBegun ?_⟩
  rintro ⟨directory, -, hSame⟩
  exact hError directory hSame

theorem Writes.map {α β : Type} (f : α → β) {value : Except CommandError α} {state : σ × List (String × String)}
    (h : Writes shader out withManifest (value, state)) : Writes shader out withManifest (f <$> value, state) := by
  cases value with
  | ok a => exact ⟨h.planned, fun _ _ => h.complete a rfl, by simpa using h.nothing⟩
  | error error =>
    refine ⟨h.planned, ?_, by simpa using h.nothing⟩
    intro _ hOk
    cases hOk

theorem writes_writeFiles (files : FileAccess (StateM σ)) (shader : Shader) (out : String) (withManifest : Bool)
    (s : σ) :
    Writes shader out withManifest ((writeFiles files.recording shader out withManifest).run.run (s, [])) := by
  unfold writeFiles
  rw [run_require]
  split
  · cases withManifest with
    | false => exact .of_begun List.prefix_rfl (fun _ _ => rfl) (List.cons_ne_nil _ _) nofun
    | true =>
      rw [if_pos rfl, run_require]
      split
      · exact .of_begun List.prefix_rfl (fun _ _ => rfl) (List.cons_ne_nil _ _) nofun
      · exact .of_begun List.prefix_rfl (fun _ _ => rfl) (List.cons_ne_nil _ _) nofun
  · exact .of_begun ⟨_, rfl⟩ nofun (List.cons_ne_nil _ _) nofun

theorem writes_writeShader (files : FileAccess (StateM σ)) (shader : Shader) (out : String) (withManifest : Bool)
    (s : σ) :
    Writes shader out withManifest ((writeShader files.recording shader (some out) withManifest).run.run (s, [])) := by
  cases hDirectory : directoryOf out with
  | none =>
    rw [writeShader_of_none hDirectory]
    exact writes_writeFiles files shader out withManifest s
  | some directory =>
    rw [writeShader_of_some hDirectory, run_require]
    split
    · exact writes_writeFiles files shader out withManifest _
    · refine ⟨List.nil_prefix, ?_, iff_of_true rfl ⟨directory, hDirectory, rfl⟩⟩
      intro _ hOk
      cases hOk

theorem writes_finish {settings : Settings} {input : String} {out? : Option String}
    (hPath : outputPath settings input out? = some out) (files : FileAccess (StateM σ)) (shader : Shader) (s : σ) :
    Writes shader out settings.manifest ((finish files.recording settings input out? shader).run.run (s, [])) := by
  have hWrites := writes_writeShader files shader out settings.manifest s
  rw [finish, hPath, bind_pure_comp, ExceptT.run_map, StateT.run_map]
  exact hWrites.map _

end

/-! ## Paths by stem -/

theorem outputPath_of_stem {settings : Settings} {dir input stem : String} (hDir : settings.outputDir = some dir)
    (hStem : Path.fileStem? input = some stem) :
    outputPath settings input none = some (Path.withExtension (Path.join dir stem) "shader") := by
  simp [outputPath, hDir, hStem]

/-- A compile without a path writes the shader, and what goes with it, to one path that follows from the directory and
the stem. It is the stem below the directory, with the extension put on, exactly if the stem has no dot behind its first
character and is not a dot alone. Another stem leads to the same path exactly if both are the same up to their last
dots. -/
theorem default_paths_by_stem {σ : Type} {files : FileAccess (StateM σ)} {s : σ} {input text stem dir : String}
    {d : Design StandardNode} {settings : Settings} (hRead : (files.read input).run s = (.ok text, s))
    (hLoad : Design.load registry text = .ok d) (hDir : settings.outputDir = some dir)
    (hStem : Path.fileStem? input = some stem) (mode? : Option Mode) :
    ∃ path, outputPath settings input none = some path ∧
      Writes (switch settings mode? d).compile path settings.manifest
        ((perform files.recording settings (.compile input none mode?)).run.run (s, [])) ∧
      (path = Path.join dir (stem ++ ".shader") ↔ '.' ∉ stem.toList.tail ∧ stem ≠ ".") ∧
      ∀ input' stem', Path.fileStem? input' = some stem' → stem' ≠ stem →
        (outputPath settings input' none = some path ↔
          Path.stemOf stem'.toList = Path.stemOf stem.toList ∧ stem' ≠ "." ∧ stem ≠ ".") := by
  have hPath := outputPath_of_stem hDir hStem
  have hName := Path.isName_of_fileStem? hStem
  refine ⟨_, hPath, ?_, Path.withExtension_join_eq_iff hName, ?_⟩
  · rw [run_compile (FileAccess.read_recording hRead []) hLoad]
    exact writes_finish hPath files _ s
  · intro input' stem' hStem' hNe
    rw [outputPath_of_stem hDir hStem', Option.some_inj]
    exact Path.withExtension_join_inj (Path.isName_of_fileStem? hStem') hName hNe

theorem default_paths_by_stem_glow :
    let t : FileTree := FileTree.addFiles {} [("glow.warm.vsg", "")]
    let settings : Settings := { outputDir := some "out" }
    ∃ path, outputPath settings "glow.warm.vsg" none = some path ∧ path ≠ "out/glow.warm.shader" ∧
      outputPath settings "glow.vsg" none = some path ∧ outputPath settings "glow.cold.vsg" none = some path ∧
      outputPath settings "halo.warm.vsg" none ≠ some path ∧
      Writes (Design.empty (ν := StandardNode) .spatial).compile path false
        ((perform FileTree.access.recording settings (.compile "glow.warm.vsg" none none)).run.run (t, [])) := by
  intro t settings
  have hRead : (FileTree.access.read "glow.warm.vsg").run t = (.ok "", t) := by
    have hFile : t.read "glow.warm.vsg" = .ok "" := rfl
    exact congrArg (·, t) hFile
  have hLoad : Design.load registry "" = .ok (Design.empty .spatial) := rfl
  have hDir : settings.outputDir = some "out" := rfl
  have hStem : Path.fileStem? "glow.warm.vsg" = some "glow.warm" := rfl
  obtain ⟨path, hPath, hWrites, hWhole, hOther⟩ := default_paths_by_stem hRead hLoad hDir hStem none
  refine ⟨path, hPath, ?_, ?_, ?_, ?_, hWrites⟩
  · exact fun hSame => absurd (hWhole.mp hSame).1 (by decide)
  · exact (hOther "glow.vsg" "glow" rfl (by decide)).mpr (by decide)
  · exact (hOther "glow.cold.vsg" "glow.cold" rfl (by decide)).mpr (by decide)
  · exact mt (hOther "halo.warm.vsg" "halo.warm" rfl (by decide)).mp (by decide)

/-- Two stems that differ, and one path. -/
theorem default_paths_collide :
    let settings : Settings := { outputDir := some "out" }
    Path.fileStem? "glow.warm.vsg" = some "glow.warm" ∧ Path.fileStem? "glow.cold.vsg" = some "glow.cold" ∧
      outputPath settings "glow.warm.vsg" none = some "out/glow.shader" ∧
      outputPath settings "glow.cold.vsg" none = some "out/glow.shader" :=
  ⟨rfl, rfl, rfl, rfl⟩

end Command

end ShadeGraph
