import Phrasebook.Translator.Basic

/-!
A stream of lines goes through a translator. Each line gets one answer, and each answer is
given out with a line end, until the stream ends, a stop is asked for, or a line is not text.

The command line gives the lines of the standard input to the standard output in this way. The only
argument is the path of a settings file.
-/

namespace Phrasebook

inductive Feed where
  | line (t : Text)
  /-- A line that is not text. -/
  | malformed
  | stop
deriving DecidableEq, Repr

def Feed.ofBytes (bytes : Bytes) : List Feed :=
  (Text.byteLines bytes).map fun line =>
    match Utf8.decode? line with
    | some t => .line t
    | none => .malformed

structure StreamReport where
  answers : List Answer := []
  /-- Whether a line that is not text ended the work. -/
  broken : Bool := false
deriving DecidableEq, Repr

namespace StreamReport

def translated (s : StreamReport) : Nat := s.answers.countP Answer.isTranslated

def unresolved (s : StreamReport) : Nat := s.answers.countP fun a => !a.isTranslated

def output (s : StreamReport) : Text := s.answers.flatMap fun a => a.value ++ ['\n']

def brokenMessage : Text := "stream did not contain valid UTF-8".toList

end StreamReport

namespace Translator

def translateStream (t : Translator) : List Feed → Disk (Translator × StreamReport)
  | [] => pure (t, {})
  | .stop :: _ => pure (t, {})
  | .malformed :: _ => pure (t, { broken := true })
  | .line input :: rest => do
    let (t, a) ← t.translate input
    let (t, report) ← t.translateStream rest
    pure (t, { report with answers := a :: report.answers })

end Translator

/-- Exit code and output for the arguments and the input. -/
def CommandLine.run (arguments : List Text) (input : Bytes) : Disk (Nat × Text) := do
  match ← Translator.setup arguments.head? with
  | .error _ => pure (1, [])
  | .ok t =>
    let (_, done) ← t.translateStream (Feed.ofBytes input)
    pure (if done.broken then 1 else 0, done.output)

end Phrasebook
