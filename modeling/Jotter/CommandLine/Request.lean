import Jotter.CommandLine.Options
import Jotter.Command.Basic
import Jotter.Files.Folder
import Jotter.Text.Alphanumeric

/-!
What a command line asks for. Options of the program come before the name of a task and those of the
task behind it; without a task the composer is started. The words of a task are read only when the task
is taken up, so that misuse of a task is not misuse of the program.
-/

namespace Jotter

inductive Task where
  | compose (notebook : Option String)
  /-- Runs one command, whose line is made of the words. -/
  | run (words : List String)
  | list (category : Option Category) (asDocument : Bool)
  deriving DecidableEq, Repr

/-- What words come to when they are read; `α` is what can be asked for by them. -/
inductive Reading (α : Type) where
  | misuse
  | version
  | help
  | asks (wanted : α)
  deriving DecidableEq, Repr

/-- A task with the options of the program. -/
structure Order where
  config : Option String
  vault : Option String
  notebook : Option String
  task : Reading Task
  deriving DecidableEq, Repr

namespace Reading

/-- Goes on with what is asked for, if anything is. -/
def andThen {α β : Type} (reading : Reading α) (next : α → Except Failure (Reading β)) :
    Except Failure (Reading β) :=
  match reading with
  | misuse => .ok misuse
  | version => .ok version
  | help => .ok help
  | asks wanted => next wanted

def helpForm : OptionForm := ⟨.help, "help", none, false⟩

def notebookForm : OptionForm := ⟨.notebook, "notebook", some 'n', true⟩

/-- The options of the program. -/
def programForms : List OptionForm :=
  [⟨.version, "version", none, false⟩, ⟨.config, "config", some 'c', true⟩,
   ⟨.vault, "vault", none, true⟩, notebookForm, helpForm]

def composeForms : List OptionForm :=
  [notebookForm, helpForm]

def runForms : List OptionForm :=
  [helpForm]

def listForms : List OptionForm :=
  [⟨.category, "category", none, true⟩, ⟨.markdown, "markdown", none, false⟩, helpForm]

/-- A letter for the comparison of names in any case: the long s and its ligatures with t are the same
as the letters that they stand for. -/
def foldLetter (c : Char) : List Char :=
  if c = 'ſ' then ['s']
  else if c = 'ﬅ' || c = 'ﬆ' then ['s', 't']
  else [c]

/-- The category of a name, in any case. -/
def category? (name : String) : Option Category :=
  Category.ofLabel? (Text.lower (.ofList (name.toList.flatMap foldLetter)))

/-! ### Tasks -/

/-- Reads the words behind the name of a task. -/
def ofTask (forms : List OptionForm) (words : List String) (task : Options → Option Task) :
    Reading Task :=
  match Options.read? forms true words with
  | none => misuse
  | some options =>
    if options.has .help then help
    else
      match task options with
      | none => misuse
      | some task => asks task

def composeTask (options : Options) : Option Task :=
  if options.words.isEmpty then some (.compose (options.value? .notebook)) else none

def runTask (options : Options) : Option Task :=
  if options.words.isEmpty then none else some (.run options.words)

def listTask (options : Options) : Option Task :=
  if !options.words.isEmpty then none
  else
    match options.value? .category with
    | none => some (.list none (options.has .markdown))
    | some name => (category? name).map fun category => .list (some category) (options.has .markdown)

/-- The task that words name, if they name one. -/
def ofWords? : List String → Option (Reading Task)
  | [] => some (asks (.compose none))
  | "compose" :: words => some (ofTask composeForms words composeTask)
  | "run" :: words => some (ofTask runForms words runTask)
  | "commands" :: words => some (ofTask listForms words listTask)
  | _ => none

/-! ### The program -/

/-- Whether the file that an option names fits: the settings file has to be there, and the vault must
not be a file. -/
def fileFits {δ : Type} (folder : Folder δ) (option : OptionKey) (name : String) :
    Except Failure Bool :=
  if option != .config && option != .vault then .ok true
  else if name.toList.contains '\x00' then .error .nullInName
  else
    match folder.findText name with
    | .file _ => .ok (option == .config)
    | _ => .ok (option == .vault)

/-- Whether the files that options name fit; the options are looked at in the order in which they were
first given, until one does not fit. -/
def filesFit {δ : Type} (folder : Folder δ) (options : Options) : List OptionKey → Except Failure Bool
  | [] => .ok true
  | key :: keys => do
    if ← fileFits folder key ((options.value? key).getD "") then filesFit folder options keys
    else return false

/-- Reads the options of the program. The version and the help go before anything else but misuse, the
first of them before the other. -/
def ofOptions {δ : Type} (folder : Folder δ) (words : List String) :
    Except Failure (Reading Options) := do
  match Options.read? programForms false words with
  | none => return misuse
  | some options =>
    match options.given.find? fun given => given.1 == .version || given.1 == .help with
    | some (.version, _) => return version
    | some _ => return help
    | none =>
      if ← filesFit folder options (options.given.map (·.1)).eraseDups then return asks options
      else return misuse

/-- Whether a word begins like an option: with a character that is no letter, digit or number. -/
def beginsLikeOption (word : String) : Bool :=
  match word.toList with
  | [] => false
  | c :: _ => !Text.isAlphanumeric c

/-- Reads words that name no task. They are misuse, unless they begin like an option and ask for the
version or the help. -/
def ofOtherWords {δ : Type} (folder : Folder δ) (words : List String) :
    Except Failure (Reading Order) :=
  if beginsLikeOption (words.headD "") then do
    (← ofOptions folder words).andThen fun _ => .ok misuse
  else .ok misuse

/-- Reads a command line. -/
def ofArguments {δ : Type} (folder : Folder δ) (arguments : List String) :
    Except Failure (Reading Order) := do
  (← ofOptions folder arguments).andThen fun options =>
    match ofWords? options.words with
    | some task =>
      .ok (asks
        ⟨options.value? .config, options.value? .vault, options.value? .notebook, task⟩)
    | none => ofOtherWords folder options.words

end Reading

end Jotter
