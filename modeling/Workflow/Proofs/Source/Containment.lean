import Mathlib.Data.List.Infix
import Workflow.Source.Basic

/-!
# Documents below a directory

A path lies below a root if it has the steps of the root and some more, none of which leads back to
a parent.  `liesBelow_resolve_iff` says for which urls the path of the document does: for those that
have a step and none to a parent.  A text that is fetched from such a path is the text of a file
below the place of the root; other urls can lead out of the directory.
-/

namespace Workflow

namespace Location

/-! ## Steps -/

theorem split_ne_nil (path : List Char) : split path ≠ [] := by
  induction path using split.induct with
  | case1 => exact List.cons_ne_nil _ _
  | case2 rest _ => exact List.cons_ne_nil _ _
  | case3 c rest hc hrest ih => exact absurd hrest ih
  | case4 c rest hc part parts hrest ih =>
    rw [split, hrest]
    · exact List.cons_ne_nil _ _
    · exact hc

/-- A slash divides. -/
theorem split_append_slash (front path : List Char) :
    split (front ++ '/' :: path) = split front ++ split path := by
  induction front using split.induct with
  | case1 => rfl
  | case2 rest ih => rw [List.cons_append, split, ih, split, List.cons_append]
  | case3 c rest hc hrest ih => exact absurd hrest (split_ne_nil rest)
  | case4 c rest hc part parts hrest ih =>
    rw [List.cons_append, split, ih, split, hrest]
    · rfl
    · exact hc
    · exact hc

theorem steps_append_slash (front path : List Char) :
    steps (front ++ '/' :: path) = steps front ++ steps path := by
  rw [steps, split_append_slash, List.filter_append]
  rfl

theorem steps_concat_slash (front : List Char) : steps (front ++ ['/']) = steps front := by
  rw [steps_append_slash front []]
  exact List.append_nil _

theorem split_of_not_mem {name : List Char} (hname : '/' ∉ name) : split name = [name] := by
  induction name with
  | nil => rfl
  | cons c rest ih =>
    rw [List.mem_cons, not_or] at hname
    rw [split, ih hname.2]
    rintro rfl
    exact hname.1 rfl

theorem steps_of_not_mem {name : List Char} (hname : '/' ∉ name) :
    steps name = if isIdle name then [] else [name] := by
  rw [steps, split_of_not_mem hname]
  by_cases hidle : isIdle name
  · rw [if_pos hidle, List.filter_cons_of_neg (by simp [hidle]), List.filter_nil]
  · rw [if_neg hidle, List.filter_cons_of_pos (by simp [hidle]), List.filter_nil]

/-- What is put behind such a text is not put to its last part. -/
def AtBoundary (front : List Char) : Prop :=
  front = [] ∨ ∃ before, front = before ++ ['/']

theorem steps_append {front : List Char} (hfront : AtBoundary front) (path : List Char) :
    steps (front ++ path) = steps front ++ steps path := by
  obtain rfl | ⟨before, rfl⟩ := hfront
  · rfl
  · rw [steps_concat_slash, List.append_assoc, List.cons_append, List.nil_append,
      steps_append_slash]

theorem exists_lastPart (path : List Char) :
    ∃ front name, AtBoundary front ∧ '/' ∉ name ∧ path = front ++ name := by
  induction path with
  | nil => exact ⟨[], [], .inl rfl, List.not_mem_nil, rfl⟩
  | cons c rest ih =>
    obtain ⟨front, name, hfront, hname, rfl⟩ := ih
    obtain rfl | ⟨before, rfl⟩ := hfront
    · by_cases hc : c = '/'
      · exact ⟨[c], name, .inr ⟨[], by rw [hc]; rfl⟩, hname, rfl⟩
      · refine ⟨[], c :: name, .inl rfl, ?_, rfl⟩
        rw [List.mem_cons, not_or]
        exact ⟨Ne.symm hc, hname⟩
    · exact ⟨c :: (before ++ ['/']), name, .inr ⟨c :: before, rfl⟩, hname, rfl⟩

/-! ## Paths put behind a root -/

/-- Whether a path begins at the top of the tree of files. -/
def IsAbsolute (path : List Char) : Prop :=
  path.head? = some '/'

theorem atBoundary_iff (root : List Char) :
    AtBoundary root ↔ (root.isEmpty || root.getLast? == some '/') = true := by
  rw [Bool.or_eq_true, List.isEmpty_iff, beq_iff_eq, List.getLast?_eq_some_iff]
  rfl

theorem join_of_not_isAbsolute (root : List Char) {path : List Char} (hpath : ¬IsAbsolute path) :
    join root path =
      if root.isEmpty || root.getLast? == some '/' then root ++ path else root ++ '/' :: path := by
  rw [join]
  rintro rest rfl
  exact hpath rfl

theorem steps_join (root : List Char) {path : List Char} (hpath : ¬IsAbsolute path) :
    steps (join root path) = steps root ++ steps path := by
  rw [join_of_not_isAbsolute root hpath]
  by_cases hroot : AtBoundary root
  · rw [if_pos ((atBoundary_iff root).mp hroot), steps_append hroot]
  · rw [if_neg (mt (atBoundary_iff root).mpr hroot), steps_append_slash]

theorem isAbsolute_join (root : List Char) {path : List Char} (hpath : ¬IsAbsolute path) :
    IsAbsolute (join root path) ↔ IsAbsolute root := by
  rw [join_of_not_isAbsolute root hpath]
  by_cases hempty : root = []
  · rw [hempty]
    exact iff_of_false hpath (nomatch ·)
  · simp only [IsAbsolute]
    split
    all_goals rw [List.head?_append_of_ne_nil _ hempty]

theorem not_isAbsolute_dropWhile (path : List Char) :
    ¬IsAbsolute (path.dropWhile (· == '/')) := by
  intro habsolute
  have := List.head?_dropWhile_not (· == '/') path
  rw [habsolute] at this
  exact absurd this (by decide)

theorem steps_dropWhile (path : List Char) :
    steps (path.dropWhile (· == '/')) = steps path := by
  induction path with
  | nil => rfl
  | cons c rest ih =>
    by_cases hc : c = '/'
    · rw [hc, List.dropWhile_cons_of_pos rfl, ih]
      rfl
    · rw [List.dropWhile_cons_of_neg (by simpa using hc)]

/-! ## Names of documents -/

/-- The name of the file that is looked for, instead of the last step. -/
def documentName (name : List Char) : List Char :=
  if name = ['.', '.'] ∨ hasExtension name then name else name ++ ['.', 'j', 's', 'o', 'n']

/-- The steps to a document, which are those of a path with the last one completed. -/
def toDocument (parts : List (List Char)) : List (List Char) :=
  parts.dropLast ++ (parts.getLast?.map documentName).toList

theorem documentName_cases (name : List Char) :
    documentName name = name ∨
      name ≠ ['.', '.'] ∧ documentName name = name ++ ['.', 'j', 's', 'o', 'n'] := by
  unfold documentName
  by_cases hname : name = ['.', '.'] ∨ hasExtension name
  · left
    rw [if_pos hname]
  · right
    rw [if_neg hname]
    exact ⟨fun hparent => hname (.inl hparent), rfl⟩

theorem prefix_documentName (name : List Char) : name <+: documentName name := by
  obtain hsame | ⟨-, hcomplete⟩ := documentName_cases name
  · rw [hsame]
  · rw [hcomplete]
    exact List.prefix_append _ _

theorem append_json_ne (name : List Char) {short : List Char} (hshort : short.length < 5) :
    name ++ ['.', 'j', 's', 'o', 'n'] ≠ short := by
  rintro rfl
  rw [List.length_append] at hshort
  exact absurd hshort (Nat.not_lt.mpr (Nat.le_add_left 5 _))

theorem documentName_eq_parent_iff (name : List Char) :
    documentName name = ['.', '.'] ↔ name = ['.', '.'] := by
  obtain hsame | ⟨hparent, hcomplete⟩ := documentName_cases name
  · rw [hsame]
  · rw [hcomplete]
    exact iff_of_false (append_json_ne name (by decide)) hparent

theorem steps_documentName {name : List Char} (hname : '/' ∉ name) (hidle : ¬isIdle name) :
    steps (documentName name) = [documentName name] := by
  obtain hsame | ⟨-, hcomplete⟩ := documentName_cases name
  · rw [hsame, steps_of_not_mem hname, if_neg hidle]
  · rw [hcomplete, steps_of_not_mem, if_neg]
    · rw [isIdle, Bool.or_eq_true, List.isEmpty_iff, beq_iff_eq, not_or]
      exact ⟨append_json_ne name (by decide), append_json_ne name (by decide)⟩
    · rw [List.mem_append, not_or]
      exact ⟨hname, by decide⟩

theorem toDocument_append_singleton (before : List (List Char)) (name : List Char) :
    toDocument (before ++ [name]) = before ++ [documentName name] := by
  rw [toDocument, List.dropLast_concat, List.getLast?_concat]
  rfl

theorem toDocument_append (before : List (List Char)) {added : List (List Char)}
    (hadded : added ≠ []) : toDocument (before ++ added) = before ++ toDocument added := by
  obtain rfl | ⟨front, name, rfl⟩ := List.eq_nil_or_concat' added
  · exact absurd rfl hadded
  · rw [← List.append_assoc, toDocument_append_singleton, toDocument_append_singleton,
      List.append_assoc]

theorem length_toDocument (parts : List (List Char)) :
    (toDocument parts).length = parts.length := by
  obtain rfl | ⟨front, name, rfl⟩ := List.eq_nil_or_concat' parts
  · rfl
  · rw [toDocument_append_singleton, List.length_append, List.length_append]
    rfl

theorem parent_mem_toDocument_iff (parts : List (List Char)) :
    ['.', '.'] ∈ toDocument parts ↔ ['.', '.'] ∈ parts := by
  obtain rfl | ⟨front, name, rfl⟩ := List.eq_nil_or_concat' parts
  · rfl
  · rw [toDocument_append_singleton, List.mem_append, List.mem_append, List.mem_singleton,
      List.mem_singleton, eq_comm, documentName_eq_parent_iff, eq_comm]

theorem dropIdle_isSuffix (path : List Char) : dropIdle path <:+ path := by
  induction path using dropIdle.induct with
  | case1 rest ih =>
    rw [dropIdle]
    exact ih.trans (List.suffix_cons _ _)
  | case2 rest ih =>
    rw [dropIdle]
    exact ih.trans (List.suffix_cons _ _)
  | case3 path hslash hpoint =>
    rw [dropIdle]
    · exact hslash
    · exact hpoint

/-- A path with a step ends with its last one when what is idle is dropped. -/
theorem dropIdle_cases (path : List Char) :
    steps path.reverse = [] ∨ ∃ front name, AtBoundary front ∧ '/' ∉ name ∧ ¬isIdle name ∧
      (dropIdle path).reverse = front ++ name ∧ steps path.reverse = steps front ++ [name] := by
  induction path using dropIdle.induct with
  | case1 rest ih =>
    rwa [dropIdle, List.reverse_cons, steps_concat_slash]
  | case2 rest ih =>
    have hpoint : steps ['.'] = [] := rfl
    rw [List.reverse_cons] at ih
    rwa [dropIdle, List.reverse_cons, List.reverse_cons, steps_append (.inr ⟨rest.reverse, rfl⟩),
      hpoint, List.append_nil]
  | case3 path hslash hpoint =>
    obtain ⟨front, name, hfront, hname, hpath⟩ := exists_lastPart path.reverse
    by_cases hidle : isIdle name
    · left
      obtain rfl | ⟨before, rfl⟩ := hfront
      · rw [hpath, List.nil_append, steps_of_not_mem hname, if_pos hidle]
      · have hreverse := congrArg List.reverse hpath
        rw [List.reverse_reverse, List.reverse_append, List.reverse_concat] at hreverse
        rw [isIdle, Bool.or_eq_true, List.isEmpty_iff, beq_iff_eq] at hidle
        obtain rfl | rfl := hidle
        · exact absurd hreverse (hslash _)
        · exact absurd hreverse (hpoint _)
    · right
      refine ⟨front, name, hfront, hname, hidle, ?_, ?_⟩
      · rw [dropIdle, hpath]
        · exact hslash
        · exact hpoint
      · rw [hpath, steps_append hfront, steps_of_not_mem hname, if_neg hidle]

theorem withExtension_of_getLast? {path name : List Char}
    (hname : (steps path).getLast? = some name) :
    withExtension path =
      if name = ['.', '.'] ∨ hasExtension name then path
      else (dropIdle path.reverse).reverse ++ ['.', 'j', 's', 'o', 'n'] := by
  rw [withExtension, fileName?, hname]
  by_cases hparent : name = ['.', '.']
  · simp only [if_pos hparent, if_pos (Or.inl hparent)]
  · simp only [if_neg hparent, or_iff_right hparent]

/-- A path is left alone, or ends with its last step and what completes it. -/
theorem withExtension_cases (path : List Char) :
    (withExtension path = path ∧ toDocument (steps path) = steps path) ∨
      ∃ front name, AtBoundary front ∧ '/' ∉ name ∧ ¬isIdle name ∧ front ++ name <+: path ∧
        steps path = steps front ++ [name] ∧ withExtension path = front ++ documentName name := by
  have hcases := dropIdle_cases path.reverse
  have hprefix := List.reverse_prefix.mpr (dropIdle_isSuffix path.reverse)
  rw [List.reverse_reverse] at hcases hprefix
  obtain hnone | ⟨front, name, hfront, hname, hidle, hdrop, hsteps⟩ := hcases
  · left
    rw [withExtension, fileName?, hnone]
    exact ⟨rfl, rfl⟩
  · have hlast : (steps path).getLast? = some name := by
      rw [hsteps, List.getLast?_concat]
    rw [withExtension_of_getLast? hlast, hdrop, hsteps, toDocument_append_singleton, documentName]
    rw [hdrop] at hprefix
    by_cases hkept : name = ['.', '.'] ∨ hasExtension name
    · left
      rw [if_pos hkept, if_pos hkept]
      exact ⟨rfl, rfl⟩
    · right
      refine ⟨front, name, hfront, hname, hidle, hprefix, rfl, ?_⟩
      rw [if_neg hkept, documentName, if_neg hkept, List.append_assoc]

/-- Of all steps, the last alone is completed. -/
theorem steps_withExtension (path : List Char) :
    steps (withExtension path) = toDocument (steps path) := by
  obtain ⟨hpath, hsteps⟩ | ⟨front, name, hfront, hname, hidle, -, hsteps, hpath⟩ :=
    withExtension_cases path
  · rw [hpath, hsteps]
  · rw [hpath, steps_append hfront, steps_documentName hname hidle, hsteps,
      toDocument_append_singleton]

theorem isAbsolute_withExtension (path : List Char) :
    IsAbsolute (withExtension path) ↔ IsAbsolute path := by
  obtain ⟨hpath, -⟩ | ⟨front, name, -, -, hidle, ⟨rest, hprefix⟩, -, hpath⟩ :=
    withExtension_cases path
  · rw [hpath]
  · obtain ⟨added, hname⟩ := prefix_documentName name
    have hnonempty : front ++ name ≠ [] := by
      rintro hempty
      rw [List.append_eq_nil_iff] at hempty
      exact hidle (by rw [hempty.2]; rfl)
    rw [hpath, ← hname, ← hprefix, ← List.append_assoc, IsAbsolute, IsAbsolute,
      List.head?_append_of_ne_nil _ hnonempty, List.head?_append_of_ne_nil _ hnonempty]

/-! ## Where the document of a url lies -/

/-- The steps of `path` are those of `root` and some behind them, none of which leads back to a
parent. -/
def LiesBelow (root path : String) : Prop :=
  (IsAbsolute path.toList ↔ IsAbsolute root.toList) ∧
    ∃ added, added ≠ [] ∧ ['.', '.'] ∉ added ∧ steps path.toList = steps root.toList ++ added

theorem steps_resolve (root url : String) :
    steps (resolve root url).toList = toDocument (steps root.toList ++ steps url.toList) := by
  rw [resolve, String.toList_ofList, steps_withExtension,
    steps_join root.toList (not_isAbsolute_dropWhile url.toList), steps_dropWhile]

theorem isAbsolute_resolve (root url : String) :
    IsAbsolute (resolve root url).toList ↔ IsAbsolute root.toList := by
  rw [resolve, String.toList_ofList, isAbsolute_withExtension,
    isAbsolute_join root.toList (not_isAbsolute_dropWhile url.toList)]

theorem liesBelow_resolve_iff (root url : String) :
    LiesBelow root (resolve root url) ↔
      steps url.toList ≠ [] ∧ ['.', '.'] ∉ steps url.toList := by
  rw [LiesBelow, steps_resolve]
  constructor
  · rintro ⟨-, added, hadded, hparent, hsteps⟩
    have hurl : steps url.toList ≠ [] := by
      intro hempty
      -- a step of the root may be completed, but none is added
      have := congrArg List.length hsteps
      rw [hempty, List.append_nil, length_toDocument, List.length_append] at this
      exact hadded (List.eq_nil_of_length_eq_zero (by omega))
    rw [toDocument_append _ hurl] at hsteps
    rw [← List.append_cancel_left hsteps, parent_mem_toDocument_iff] at hparent
    exact ⟨hurl, hparent⟩
  · rintro ⟨hurl, hparent⟩
    refine ⟨isAbsolute_resolve root url, toDocument (steps url.toList), ?_, ?_,
      toDocument_append _ hurl⟩
    · rw [← List.length_pos_iff, length_toDocument]
      exact List.length_pos_iff.mpr hurl
    · rwa [parent_mem_toDocument_iff]

end Location

namespace FileTree

variable {tree : FileTree} {place target : List (List Char)} {parts added : List (List Char)}

/-! ## Following a path -/

/-- The place to which one part of a path leads from a directory. -/
def passTo (place : List (List Char)) (part : List Char) : List (List Char) :=
  if Location.isIdle part then place
  else if part = ['.', '.'] then place.dropLast
  else place ++ [part]

theorem follow?_cons (tree : FileTree) (place : List (List Char)) (part : List Char)
    (rest : List (List Char)) :
    tree.follow? place (part :: rest) =
      if tree.isDirectory place then tree.follow? (passTo place part) rest else none := by
  rw [follow?, passTo]
  simp only [apply_ite (tree.follow? · rest)]

theorem isDirectory_of_follow? (hfollow : tree.follow? place parts = some target)
    (hparts : parts ≠ []) : tree.isDirectory place := by
  obtain ⟨part, rest, rfl⟩ := List.exists_cons_of_ne_nil hparts
  by_contra hfile
  rw [follow?_cons, if_neg hfile] at hfollow
  exact nomatch hfollow

theorem follow?_append (tree : FileTree) (place : List (List Char))
    (parts added : List (List Char)) :
    tree.follow? place (parts ++ added) =
      (tree.follow? place parts).bind (tree.follow? · added) := by
  induction parts generalizing place with
  | nil => rfl
  | cons part rest ih =>
    rw [List.cons_append, follow?_cons, follow?_cons]
    by_cases hdirectory : tree.isDirectory place
    · rw [if_pos hdirectory, if_pos hdirectory, ih]
    · rw [if_neg hdirectory, if_neg hdirectory]
      rfl

/-- What is idle leads nowhere. -/
theorem follow?_filter (hfollow : tree.follow? place parts = some target) :
    tree.follow? place (parts.filter (!Location.isIdle ·)) = some target := by
  induction parts generalizing place with
  | nil => exact hfollow
  | cons part rest ih =>
    have hdirectory := isDirectory_of_follow? hfollow (List.cons_ne_nil part rest)
    rw [follow?_cons, if_pos hdirectory] at hfollow
    have hrest := ih hfollow
    by_cases hidle : Location.isIdle part
    · rw [List.filter_cons_of_neg (by simpa using hidle)]
      rwa [passTo, if_pos hidle] at hrest
    · rw [List.filter_cons_of_pos (by simpa using hidle), follow?_cons, if_pos hdirectory]
      exact hrest

theorem isDirectory_of_target (hfollow : tree.follow? place parts = some target)
    (htarget : tree.isDirectory target) : tree.isDirectory place := by
  by_cases hparts : parts = []
  · rw [hparts] at hfollow
    rwa [Option.some.inj hfollow]
  · exact isDirectory_of_follow? hfollow hparts

/-- What is idle can be passed on the way to a directory, but not behind a file. -/
theorem follow?_of_filter (htarget : tree.isDirectory target)
    (hfollow : tree.follow? place (parts.filter (!Location.isIdle ·)) = some target) :
    tree.follow? place parts = some target := by
  induction parts generalizing place with
  | nil => exact hfollow
  | cons part rest ih =>
    have hdirectory := isDirectory_of_target hfollow htarget
    rw [follow?_cons, if_pos hdirectory]
    by_cases hidle : Location.isIdle part
    · rw [List.filter_cons_of_neg (by simpa using hidle)] at hfollow
      rw [passTo, if_pos hidle]
      exact ih hfollow
    · rw [List.filter_cons_of_pos (by simpa using hidle), follow?_cons, if_pos hdirectory]
        at hfollow
      exact ih hfollow

theorem follow?_eq_append (hidle : ∀ part ∈ added, ¬Location.isIdle part)
    (hparent : ['.', '.'] ∉ added) (hfollow : tree.follow? place added = some target) :
    target = place ++ added := by
  induction added generalizing place with
  | nil => rw [← Option.some.inj hfollow, List.append_nil]
  | cons part rest ih =>
    have hdirectory := isDirectory_of_follow? hfollow (List.cons_ne_nil part rest)
    rw [List.mem_cons, not_or] at hparent
    rw [List.forall_mem_cons] at hidle
    rw [follow?_cons, if_pos hdirectory, passTo, if_neg hidle.1, if_neg (Ne.symm hparent.1)]
      at hfollow
    rw [ih hidle.2 hparent.2 hfollow, List.append_assoc]
    rfl

/-- What a path below a root reads is a file below the place of the root. -/
theorem read?_of_liesBelow {root path text : String} (hbelow : Location.LiesBelow root path)
    (hread : tree.read? path = some text) :
    ∃ place added, tree.follow? [] (Location.split root.toList) = some place ∧ added ≠ [] ∧
      tree.file? (place ++ added) = some text := by
  obtain ⟨-, added, hadded, hparent, hsteps⟩ := hbelow
  obtain ⟨target, hfollow, hfile⟩ := Option.bind_eq_some_iff.mp hread
  have hidle : ∀ part ∈ added, ¬Location.isIdle part := by
    intro part hpart
    have hmem : part ∈ Location.steps path.toList := by
      rw [hsteps]
      exact List.mem_append_right _ hpart
    simpa using (List.mem_filter.mp hmem).2
  have hstepwise : tree.follow? [] (Location.steps path.toList) = some target :=
    follow?_filter hfollow
  rw [hsteps, follow?_append] at hstepwise
  obtain ⟨place, hroot, hbehind⟩ := Option.bind_eq_some_iff.mp hstepwise
  refine ⟨place, added, follow?_of_filter (isDirectory_of_follow? hbehind hadded) hroot, hadded, ?_⟩
  rwa [← follow?_eq_append hidle hparent hbehind]

end FileTree

namespace Source

open Location

theorem fetch_ofDirectory_eq_ok_iff {root url text : String} {tree : FileTree} {request : Nat} :
    (ofDirectory root tree).fetch request url = .ok text ↔
      tree.read? (resolve root url) = some text := by
  rw [ofDirectory]
  dsimp only
  cases tree.read? (resolve root url) with
  | none => exact iff_of_false (nomatch ·) (nomatch ·)
  | some found => rw [Except.ok.injEq, Option.some.injEq]

/-- The document of a url lies below the root exactly if the url has a step and none to a parent.
What is fetched then is a file below the place to which the root leads. -/
theorem ofDirectory_below_iff (root url : String) :
    (LiesBelow root (resolve root url) ↔
      steps url.toList ≠ [] ∧ ['.', '.'] ∉ steps url.toList) ∧
    (LiesBelow root (resolve root url) → ∀ tree request text,
      (ofDirectory root tree).fetch request url = .ok text →
        ∃ place added, tree.follow? [] (split root.toList) = some place ∧ added ≠ [] ∧
          tree.file? (place ++ added) = some text) := by
  refine ⟨liesBelow_resolve_iff root url, ?_⟩
  intro hbelow tree request text hfetch
  exact FileTree.read?_of_liesBelow hbelow (fetch_ofDirectory_eq_ok_iff.mp hfetch)

/-- Documents below one directory, and a file beside it. -/
def served : FileTree :=
  .ofFiles "/srv" [("docs/guides/intro.json", "intro"), ("secret.json", "secret")]
    fun _ => "No such file or directory (os error 2)"

theorem guide_below :
    LiesBelow "/srv/docs" (resolve "/srv/docs" "//guides//intro") ∧
      (ofDirectory "/srv/docs" served).fetch 0 "//guides//intro" = .ok "intro" ∧
      ∃ place added, served.follow? [] (split "/srv/docs".toList) = some place ∧ added ≠ [] ∧
        served.file? (place ++ added) = some "intro" := by
  obtain ⟨hiff, hfetched⟩ := ofDirectory_below_iff "/srv/docs" "//guides//intro"
  have hbelow := hiff.mpr (by decide +kernel)
  have hfetch : (ofDirectory "/srv/docs" served).fetch 0 "//guides//intro" = .ok "intro" := by
    decide +kernel
  exact ⟨hbelow, hfetch, hfetched hbelow served 0 "intro" hfetch⟩

/-- A url can lead out of the directory, and one without a step leads beside it. -/
theorem secret_not_below :
    resolve "/srv/docs" "../secret" = "/srv/docs/../secret.json" ∧
      ¬LiesBelow "/srv/docs" (resolve "/srv/docs" "../secret") ∧
      (ofDirectory "/srv/docs" served).fetch 0 "../secret" = .ok "secret" ∧
      resolve "/srv/docs" "" = "/srv/docs.json" ∧
      ¬LiesBelow "/srv/docs" (resolve "/srv/docs" "") := by
  refine ⟨by decide +kernel, ?_, by decide +kernel, by decide +kernel, ?_⟩
  · rw [liesBelow_resolve_iff]
    decide +kernel
  · rw [liesBelow_resolve_iff]
    decide +kernel

end Source

end Workflow
