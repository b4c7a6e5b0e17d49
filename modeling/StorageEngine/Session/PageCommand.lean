import StorageEngine.Page

/-!
# Commands on pages

The accesses to a page as data, and what each answers.  A command that is refused leaves the
page as it is.  Some commands make sense only where there are two pages.
-/

namespace StorageEngine.Session

/-- The commands on pages. -/
inductive PageCommand where
  | writeInt (offset : UInt64) (value : Int32)
  | readInt (offset : UInt64)
  | writeBytes (offset : UInt64) (value : Bytes)
  | readBytes (offset : UInt64)
  | writeText (offset : UInt64) (value : String)
  | readText (offset : UInt64)
  /-- Puts bytes at their places. -/
  | put (runs : List (Nat × Bytes))
  | reset
  /-- Shows the page. -/
  | dump
  /-- Makes the other page the same. -/
  | copyToOther
  /-- Exchanges the two pages. -/
  | swap
  | fieldLength (length : UInt64)
  | size
  /-- What makes no sense. -/
  | malformed

/-- What a command on a page answers. -/
inductive PageAnswer where
  | done
  | integer (value : Int32)
  | bytes (value : Bytes)
  | text (value : String)
  | page (value : Page)
  | length (value : Nat)
  | size (value : Nat)
  | refused (fault : Fault)
  | malformed

namespace PageCommand

/-- The bytes of a page with bytes put at their places, if they all lie in the page. -/
def putRuns (runs : List (Nat × Bytes)) (bytes : Bytes) : Option Bytes :=
  runs.foldlM (fun bytes (offset, run) =>
    if offset + run.length ≤ bytes.length then some (bytes.overwrite offset run) else none) bytes

/-- The answer to an access that changes nothing. -/
def readWith {α : Type} (answer : α → PageAnswer) (result : Except Fault α) : PageAnswer :=
  match result with
  | .ok value => answer value
  | .error fault => .refused fault

/-- The answer to an access that changes the page, and the page after it. -/
def changeWith (page : Page) (result : Except Fault Page) : PageAnswer × Page :=
  match result with
  | .ok page => (.done, page)
  | .error fault => (.refused fault, page)

/-- The answer of a command that changes nothing. -/
def read (c : PageCommand) (page : Page) : PageAnswer :=
  match c with
  | .readInt offset => readWith .integer (page.readInt offset)
  | .readBytes offset => readWith .bytes (page.readBytes offset)
  | .readText offset => readWith .text (page.readText offset)
  | .dump => .page page
  | _ => .malformed

/-- The answer of a command on a single page, and the page after it. -/
def run (c : PageCommand) (page : Page) : PageAnswer × Page :=
  match c with
  | .writeInt offset value => changeWith page (page.writeInt offset value)
  | .writeBytes offset value => changeWith page (page.writeBytes offset value)
  | .writeText offset value => changeWith page (page.writeText offset value)
  | .put runs =>
    match putRuns runs page.bytes with
    | some bytes => (.done, .ofBytes bytes)
    | none => (.malformed, page)
  | .reset => (.done, .zero)
  | c => (c.read page, page)

/-- The answers of commands on a single page, and the page after them. -/
def runAll (cs : List PageCommand) (page : Page) : List PageAnswer × Page :=
  cs.foldl (fun (answers, page) c =>
    let (answer, page) := c.run page
    (answers ++ [answer], page)) ([], page)

theorem foldl_run (cs : List PageCommand) (answers : List PageAnswer) (page : Page) :
  cs.foldl (fun (answers, page) c =>
      let (answer, page) := c.run page
      (answers ++ [answer], page)) (answers, page)
    = (answers ++ (runAll cs page).1, (runAll cs page).2)
  := by
  induction cs generalizing answers page with
  | nil => simp [runAll]
  | cons c cs ih => simp [runAll, ih (answers ++ _), ih [_]]

@[simp]
theorem runAll_nil (page : Page) :
  runAll [] page = ([], page)
  := rfl

@[simp]
theorem runAll_cons (c : PageCommand) (cs : List PageCommand) (page : Page) :
  runAll (c :: cs) page
    = ((c.run page).1 :: (runAll cs (c.run page).2).1, (runAll cs (c.run page).2).2)
  := foldl_run cs [(c.run page).1] (c.run page).2

theorem runAll_append (cs ds : List PageCommand) (page : Page) :
  runAll (cs ++ ds) page
    = ((runAll cs page).1 ++ (runAll ds (runAll cs page).2).1, (runAll ds (runAll cs page).2).2)
  := by
  induction cs generalizing page with
  | nil => rfl
  | cons c cs ih => simp only [List.cons_append, runAll_cons, ih]

/-- The answer of a command on a page with another one beside it, and the two after it. -/
def runBeside (c : PageCommand) (page other : Page) : PageAnswer × Page × Page :=
  match c with
  | .copyToOther => (.done, page, page)
  | .swap => (.done, other, page)
  | .fieldLength length => (readWith .length (Page.fieldLength length), page, other)
  | .size => (.size Page.size, page, other)
  | c =>
    let (answer, page) := c.run page
    (answer, page, other)

end PageCommand

end StorageEngine.Session
