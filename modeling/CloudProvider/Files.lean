import CloudProvider.Text.Pieces

/-!
# Files and directories

A tree of directories with files in it, one of which is the directory that relative paths start
from.

* `Files.read`, `Files.write`: the bytes of the file that a path leads to, looked up and set.
* `Files.makeDirectories`: the directories of a path, with those made that are missing.
* `Files.save`: a file written after the directories that it stands in are made.
* `Files.read_write`, `Files.read_save`: what was written is read back.
-/

namespace CloudProvider

/-- The names that lead to a place from the root, the innermost first. -/
abbrev Place := List String

/-- What stands at a place. -/
inductive Node where
  | directory
  | file (content : List UInt8)
  deriving DecidableEq, Repr

/-- A tree of directories and files. -/
structure Files where
  /-- The directory that relative paths start from. -/
  home : Place := []
  /-- What stands where, the newest first. The directories above an entry need none themselves. -/
  nodes : List (Place × Node) := []
  deriving DecidableEq, Repr

namespace Files

/-! ## Faults -/

/-- Why a file cannot be read or written. -/
inductive Fault where
  | missing
  /-- A file stands where a directory is to be made. -/
  | taken
  | notDirectory
  | isDirectory
  | tooLong
  /-- The path holds the character with code zero. -/
  | nul
  deriving DecidableEq, Repr

/-- The wording of a fault. -/
def Fault.message : Fault → String
  | missing => "No such file or directory (os error 2)"
  | taken => "File exists (os error 17)"
  | notDirectory => "Not a directory (os error 20)"
  | isDirectory => "Is a directory (os error 21)"
  | tooLong => "File name too long (os error 36)"
  | nul => "file name contained an unexpected NUL byte"

/-- The greatest number of bytes that a name may have. -/
def maxName : Nat := 255

/-- The greatest number of bytes that a path may have. -/
def maxPath : Nat := 4095

/-! ## Places -/

/-- Whether a place is a directory because something stands in it. -/
def isAbove (fs : Files) (p : Place) : Bool :=
  p.isSuffixOf fs.home || fs.nodes.any fun e => p.isSuffixOf e.1

/-- What stands at a place. -/
def node? (fs : Files) (p : Place) : Option Node :=
  (fs.nodes.lookup p).or (if fs.isAbove p then some .directory else none)

/-- Whether a piece of a path stays where it is. -/
def isIdle (name : String) : Bool := name = "" ∨ name = "."

/-- The directory that a piece of a path leads to. -/
def enter (fs : Files) (p : Place) (name : String) : Except Fault Place :=
  if isIdle name then .ok p
  else if name = ".." then .ok p.tail
  else if maxName < name.utf8ByteSize then .error .tooLong
  else
    match fs.node? (name :: p) with
    | none => .error .missing
    | some .directory => .ok (name :: p)
    | some (.file _) => .error .notDirectory

/-- Where a path starts. -/
def start (fs : Files) (path : String) : Place := if path.startsWith "/" then [] else fs.home

/-- Whether a path can be looked up at all. -/
def fits (path : String) : Except Fault Unit :=
  if path.toList.contains '\x00' then .error .nul
  else if path = "" then .error .missing
  else if maxPath < path.utf8ByteSize then .error .tooLong
  else .ok ()

/-- Where a path leads. -/
inductive Target where
  /-- The path can only name a directory, one that is there. -/
  | directory
  /-- The place of the last name, and whether a slash follows it. -/
  | entry (p : Place) (slashed : Bool)
  deriving DecidableEq, Repr

/-- **Where a path leads**, if the directories on the way are there. -/
def target (fs : Files) (path : String) : Except Fault Target := do
  fits path
  let names := (Text.pieces '/' path).reverse
  match names.dropWhile (· = "") with
  | [] => return .directory
  | last :: front =>
    let p ← front.reverse.foldlM fs.enter (fs.start path)
    if last = "." ∨ last = ".." then return .directory
    else return .entry (last :: p) (names.head? = some "")

/-! ## Reading and writing -/

/-- Whether the name of a place is too long. -/
def isLong (p : Place) : Bool := p.head?.any fun name => maxName < name.utf8ByteSize

/-- **The bytes of the file that a path leads to.** -/
def read (fs : Files) (path : String) : Except Fault (List UInt8) := do
  match ← fs.target path with
  | .directory => throw .isDirectory
  | .entry p slashed =>
    if isLong p then throw .tooLong
    else
      match fs.node? p with
      | none => throw .missing
      | some .directory => throw .isDirectory
      | some (.file content) => if slashed then throw .notDirectory else return content

/-- What stands at a place, set. -/
def insert (fs : Files) (p : Place) (n : Node) : Files := { fs with nodes := (p, n) :: fs.nodes }

/-- **The file that a path leads to, set to some bytes.** It need not be there before. -/
def write (fs : Files) (path : String) (content : List UInt8) : Except Fault Files := do
  match ← fs.target path with
  | .directory | .entry _ true => throw .isDirectory
  | .entry p false =>
    if isLong p then throw .tooLong
    else if fs.node? p = some .directory then throw .isDirectory
    else return fs.insert p (.file content)

/-- The directories that names lead through, made where they are missing. -/
def makeAll (fs : Files) (p : Place) : List String → Except Fault Files
  | [] => .ok fs
  | name :: rest =>
    if isIdle name then makeAll fs p rest
    else if name = ".." then makeAll fs p.tail rest
    else if maxName < name.utf8ByteSize then .error .tooLong
    else
      match fs.node? (name :: p) with
      | none => makeAll (fs.insert (name :: p) .directory) (name :: p) rest
      | some .directory => makeAll fs (name :: p) rest
      | some (.file _) => .error (if rest = [] then .taken else .notDirectory)

/-- **The directories of a path, with those made that are missing.** -/
def makeDirectories (fs : Files) (path : String) : Except Fault Files := do
  fits path
  fs.makeAll (fs.start path) (Text.pieces '/' path)

/-- The path of the directory that a path leads into; it is empty if the path has one name only. -/
def parent (path : String) : String :=
  let names := (Text.pieces '/' path).reverse.dropWhile isIdle
  "/".intercalate (names.tail.dropWhile isIdle).reverse

/-- The directories that a path leads through, with those made that are missing. -/
def makeParent (fs : Files) (path : String) : Except Fault Files :=
  if parent path = "" then .ok fs else fs.makeDirectories (parent path)

/-- **A file written after the directories that it stands in are made.** -/
def save (fs : Files) (path : String) (content : List UInt8) : Except Fault Files := do
  (← fs.makeParent path).write path content

/-! ## Laws -/

theorem node?_insert_self (fs : Files) (p : Place) (n : Node) :
    (fs.insert p n).node? p = some n := by
  simp [node?, insert]

theorem isAbove_insert {fs : Files} {q : Place} (p : Place) (n : Node) (h : fs.isAbove q) :
    (fs.insert p n).isAbove q := by
  simp only [isAbove, insert, List.any_cons, Bool.or_eq_true] at h ⊢
  exact h.imp_right Or.inr

theorem node?_insert_of_directory {fs : Files} {p q : Place} {n : Node}
    (hp : fs.node? p ≠ some .directory) (hq : fs.node? q = some .directory) :
    (fs.insert p n).node? q = some .directory := by
  have hl : (fs.insert p n).nodes.lookup q = fs.nodes.lookup q := by
    have hne : (q == p) = false := by simpa using fun h : q = p => hp (h ▸ hq)
    rw [insert, List.lookup_cons, hne]
  unfold node? at hq ⊢
  rw [hl]
  cases hs : fs.nodes.lookup q with
  | some m => simpa [hs] using hq
  | none =>
    cases ha : fs.isAbove q with
    | true => simp [isAbove_insert p n ha]
    | false => simp [hs, ha] at hq

theorem enter_insert {fs : Files} {p : Place} {n : Node} (hp : fs.node? p ≠ some .directory)
    {q r : Place} {name : String} (h : fs.enter q name = .ok r) :
    (fs.insert p n).enter q name = .ok r := by
  unfold enter at h ⊢
  by_cases hi : isIdle name
  · simpa [hi] using h
  · by_cases hu : name = ".."
    · simpa only [hi, hu, if_true] using h
    · by_cases hl : maxName < name.utf8ByteSize
      · simp [hi, hu, hl] at h
      · simp only [hi, hu, hl, if_false] at h ⊢
        cases hn : fs.node? (name :: q) with
        | none => simp [hn] at h
        | some node =>
          cases node with
          | file content => simp [hn] at h
          | directory => simpa [hn, node?_insert_of_directory hp hn] using h

theorem foldlM_enter_insert {fs : Files} {p : Place} {n : Node}
    (hp : fs.node? p ≠ some .directory) (names : List String) {q r : Place}
    (h : names.foldlM fs.enter q = .ok r) : names.foldlM (fs.insert p n).enter q = .ok r := by
  induction names generalizing q with
  | nil => simpa using h
  | cons name names ih =>
    rw [List.foldlM_cons] at h ⊢
    cases he : fs.enter q name with
    | error e => rw [he] at h; cases h
    | ok s =>
      rw [he] at h
      rw [enter_insert hp he]
      exact ih h

/-- A path leads to the same place when something else is set. -/
theorem target_insert {fs : Files} {p : Place} {n : Node} (hp : fs.node? p ≠ some .directory)
    {path : String} {t : Target} (h : fs.target path = .ok t) :
    (fs.insert p n).target path = .ok t := by
  unfold target at h ⊢
  cases hf : fits path with
  | error e => rw [hf] at h; cases h
  | ok u =>
    rw [hf] at h
    simp only [bind, Except.bind] at h ⊢
    split
    · simp_all
    · rename_i last front hn
      simp only [hn] at h
      cases hw : front.reverse.foldlM fs.enter (fs.start path) with
      | error e => rw [hw] at h; cases h
      | ok q =>
        rw [hw] at h
        have hi := foldlM_enter_insert (n := n) hp _ hw
        rw [show (fs.insert p n).start path = fs.start path from rfl, hi]
        exact h

theorem exists_of_write {fs fs' : Files} {path : String} {content : List UInt8}
    (h : fs.write path content = .ok fs') :
    ∃ p, fs.target path = .ok (.entry p false) ∧ isLong p = false ∧
      fs.node? p ≠ some .directory ∧ fs' = fs.insert p (.file content) := by
  unfold write at h
  cases ht : fs.target path with
  | error e => simp [ht, bind, Except.bind] at h
  | ok t =>
    rcases t with _ | ⟨p, _ | _⟩
    · simp [ht, bind, Except.bind, throw, throwThe, MonadExceptOf.throw] at h
    · by_cases hl : isLong p
      · simp [ht, hl, bind, Except.bind, throw, throwThe, MonadExceptOf.throw] at h
      · by_cases hd : fs.node? p = some .directory
        · simp [ht, hl, hd, bind, Except.bind, throw, throwThe, MonadExceptOf.throw] at h
        · simp [ht, hl, hd, bind, Except.bind, pure, Except.pure] at h
          exact ⟨p, rfl, by simpa using hl, hd, h.symm⟩
    · simp [ht, bind, Except.bind, throw, throwThe, MonadExceptOf.throw] at h

/-- **What was written is read back.** -/
theorem read_write {fs fs' : Files} {path : String} {content : List UInt8}
    (h : fs.write path content = .ok fs') : fs'.read path = .ok content := by
  obtain ⟨p, ht, hl, hd, rfl⟩ := exists_of_write h
  simp [read, target_insert hd ht, hl, node?_insert_self, bind, Except.bind, pure, Except.pure]

/-- **What was saved is read back.** -/
theorem read_save {fs fs' : Files} {path : String} {content : List UInt8}
    (h : fs.save path content = .ok fs') : fs'.read path = .ok content := by
  unfold save at h
  cases hm : fs.makeParent path with
  | error e => simp [hm, bind, Except.bind] at h
  | ok made => exact read_write (by simpa [hm, bind, Except.bind] using h)

end Files

end CloudProvider
