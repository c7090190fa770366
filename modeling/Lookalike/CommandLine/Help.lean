/-!
# Help pages

A help page says what a command does and how it is used, and lists what may be given to it. What
the entries of a section do is written in one column, two blanks behind the longest entry.

## Main definitions

* `Help.Page` — the pages, with `Help.Page.text` as their text.
* `Help.page` — the page on the program or on one of its commands.
-/

namespace Lookalike.Help

/-- Something that may be given to a command. -/
structure Entry where
  form : String
  effect : String

structure Section where
  title : String
  entries : List Entry

structure Page where
  effect : String
  usage : String
  sections : List Section

def padded (width : Nat) (s : String) : String :=
  s ++ String.ofList (List.replicate (width - s.length) ' ')

/-- A text that fits the width fills it exactly once padded. -/
@[simp] theorem length_padded {width : Nat} {s : String} (h : s.length ≤ width) :
    (padded width s).length = width := by
  simp [padded]
  omega

def Section.width (s : Section) : Nat :=
  s.entries.foldl (fun n e => max n e.form.length) 0

def Section.lines (s : Section) : List String :=
  (s.title ++ ":") :: s.entries.map fun e => "  " ++ padded s.width e.form ++ "  " ++ e.effect

def Page.text (p : Page) : String :=
  "\n".intercalate
    ([p.effect, "", "Usage: " ++ p.usage] ++ p.sections.flatMap (fun s => "" :: s.lines) ++ [""])

/-! ## The pages -/

def version : String := "codetwin 0.4.0\n"

def compareEffect : String := "Compare two files"

def scanEffect : String := "Compare every pair of Python files under --path"

def helpEffect : String := "Print this message or the help of the given subcommand(s)"

def helpEntry : Entry := ⟨"-h, --help", "Print help"⟩

def optionEntries : List Entry := [
  ⟨"-k <K>", "Tokens per k-gram"⟩,
  ⟨"-w <W>", "Winnowing window size"⟩,
  ⟨"    --pairing <PAIRING>", "Collision pairing: cross-product or first-only"⟩]

def programPage : Page where
  effect := "Near-duplicate source code detection with winnowed k-gram fingerprints"
  usage := "codetwin [OPTIONS] <COMMAND>"
  sections := [
    ⟨"Commands", [
      ⟨"compare", compareEffect⟩,
      ⟨"scan", scanEffect⟩,
      ⟨"help", helpEffect⟩]⟩,
    ⟨"Options", [
      ⟨"-p, --path <PATH>", "Directory to scan and to look for codetwin.toml in [default: .]"⟩,
      ⟨"-f, --format <FORMAT>", "Output format (defaults to the configured format) " ++
        "[possible values: json, markdown, text]"⟩,
      ⟨"-c, --config <CONFIG>", "Configuration file path"⟩,
      ⟨"-v, --verbose", "Enable verbose output"⟩,
      ⟨"-j, --jobs <JOBS>", "Number of parallel workers (default: number of CPUs)"⟩,
      helpEntry,
      ⟨"-V, --version", "Print version"⟩]⟩]

def comparePage : Page where
  effect := compareEffect
  usage := "codetwin compare [OPTIONS] <FILE1> <FILE2>"
  sections := [
    ⟨"Arguments", [⟨"<FILE1>", "Source file"⟩, ⟨"<FILE2>", "Target file"⟩]⟩,
    ⟨"Options", optionEntries ++ [helpEntry]⟩]

def scanPage : Page where
  effect := scanEffect
  usage := "codetwin scan [OPTIONS]"
  sections := [
    ⟨"Options", optionEntries ++ [
      ⟨"    --min-similarity <MIN_SIMILARITY>",
        "Only report pairs at or above this score (0.0-1.0)"⟩,
      helpEntry]⟩]

def helpPage : Page where
  effect := helpEffect
  usage := "codetwin help [COMMAND]..."
  sections := [⟨"Arguments", [⟨"[COMMAND]...", "Print help for the subcommand(s)"⟩]⟩]

inductive Topic where
  | program
  | compare
  | scan
  | help
  deriving DecidableEq, Repr

def page : Topic → Page
  | .program => programPage
  | .compare => comparePage
  | .scan => scanPage
  | .help => helpPage

end Lookalike.Help
