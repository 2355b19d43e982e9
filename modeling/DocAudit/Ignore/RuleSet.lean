import DocAudit.Ignore.Rule

/-!
# Rule sets

The rules of an ignore file together. The last rule that matches a path decides, except that a
rule which matches only a directory of the path gives way to one that matches the path itself.
-/

namespace DocAudit.Ignore

/-- Rules in the order of their lines. -/
abbrev RuleSet := List Rule

/-- The rules of lines. Empty lines are skipped; the first unusable line is reported. -/
def rulesOf : List Text → Except RuleError RuleSet
  | [] => .ok []
  | line :: rest =>
    if line = [] then rulesOf rest
    else do
      let rule ← ruleOf? line
      let others ← rulesOf rest
      return rule.toList ++ others

/-- How closely a rule matches a path. -/
inductive Closeness where
  | directory
  | path
  deriving DecidableEq, Repr

/-- How closely a rule matches a path, if it does. -/
def Rule.closeness? (rule : Rule) (path : Text) : Option Closeness :=
  (rule.pattern.search? path).map fun found =>
    if (found.named? rule.pattern directoryGroup).isSome then .directory else .path

/-- The verdict of rules that are given last first, after the verdict of the rules before them
that matched a directory only. -/
def verdict (path : Text) : Option Bool → List Rule → Option Bool
  | best, [] => best
  | best, rule :: rest =>
    match rule.closeness? path with
    | none => verdict path best rest
    | some .path => some rule.ignores
    | some .directory => verdict path (best <|> some rule.ignores) rest

/-- Whether a set of rules ignores a path. -/
def ignores (rules : RuleSet) (path : Text) : Bool :=
  (verdict path none rules.reverse).getD false

end DocAudit.Ignore
