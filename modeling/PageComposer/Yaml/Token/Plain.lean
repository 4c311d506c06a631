import PageComposer.Yaml.Cursor

/-!
# Plain scalars

A scalar without quotes goes up to a gap that is followed by a comment, by the end of its block, or by a
mark. Line ends inside it fold: one of them is a space, further ones stay.
-/

namespace PageComposer.Yaml

def endsAtColon (inFlow : Bool) (c : Char) : Bool :=
  isGap c || (inFlow && ",[]\x7b\x7d".toList.contains c)

def plainRun (inFlow : Bool) : Text → Text
  | [] => []
  | c :: rest =>
    if isGap c || (c == ':' && endsAtColon inFlow (rest.headD '\x00')) ||
        (inFlow && ",?[]\x7b\x7d".toList.contains c) then []
    else c :: plainRun inFlow rest

/-- The line ends and spaces in front of the next line that has text; `none` if a separator comes first. -/
def plainBreaks : Nat → Cursor → Option Text × Cursor
  | 0, c => (some [], c)
  | room + 1, c =>
    if c.peek == ' ' then plainBreaks room c.next
    else if isBreak c.peek then
      let (ends, after) := c.lineBreak
      if after.atSeparator then (none, after)
      else
        let (more, after) := plainBreaks room after
        (more.map (ends ++ ·), after)
    else (some [], c)

/-- What stands between two runs: what it folds to (nothing if the scalar ends), whether it holds a line
end, and the cursor behind it. -/
def plainGap (c : Cursor) : Text × Bool × Cursor :=
  let (spaces, after) := c.takeWhile (· == ' ')
  if isBreak after.peek then
    let (ends, after) := after.lineBreak
    if after.atSeparator then ([], true, after)
    else match plainBreaks after.rest.length after with
      | (none, after) => ([], true, after)
      | (some breaks, after) =>
        let first := if ends ≠ ['\n'] then ends else if breaks.isEmpty then [' '] else []
        (first ++ breaks, true, after)
  else (spaces, false, after)

/-- Runs and gaps from here on. `indent` is the least column of a further line outside of flow
collections. The flag tells whether a line ended inside or right behind the scalar since the last run. -/
def plainFrom (inFlow : Bool) (indent : Int) : Nat → Text → Cursor → Text × Bool × Cursor
  | 0, _, c => ([], false, c)
  | room + 1, gap, c =>
    if c.peek == '#' then ([], false, c)
    else
      let run := plainRun inFlow c.rest
      if run.isEmpty then ([], false, c)
      else
        let (next, broken, after) := plainGap (c.skip run.length)
        if next.isEmpty || after.peek == '#' || (!inFlow && (after.column : Int) < indent) then
          (gap ++ run, broken, after)
        else
          let (more, brokenLater, last) := plainFrom inFlow indent room next after
          (gap ++ run ++ more, if more.isEmpty then broken else brokenLater, last)

def plainScalar (inFlow : Bool) (indent : Int) (c : Cursor) : Text × Bool × Cursor :=
  plainFrom inFlow indent (c.rest.length + 1) [] c

end PageComposer.Yaml
