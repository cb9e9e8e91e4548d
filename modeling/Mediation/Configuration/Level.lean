import Mediation.Rule.Basic
import Mediation.Table
import Mediation.Text.Affix
import Mediation.Text.Blank
import Mediation.Text.Case

/-!
# Levels of rules

A setting gives a level to one rule or to a category of rules. The level of a rule counts before that of its
category, wherever the two stand.
-/

namespace Mediation

/-- What a setting makes of a rule: a severity, silence, or what the rule has by itself. -/
inductive RuleLevel where
  | severity (value : Severity)
  | suppressed
  | standard
  deriving DecidableEq

namespace RuleLevel

/-- The level that a word stands for. -/
def ofWord? : String → Option RuleLevel
  | "default" => some .standard
  | "error" => some (.severity .error)
  | "warning" => some (.severity .warning)
  | "suggestion" => some (.severity .info)
  | "silent" => some .suppressed
  | "none" => some .suppressed
  | _ => none

/-- The level in the value of a setting: the word before the first number sign, in any case. -/
def ofValue? (value : String) : Option RuleLevel :=
  ofWord? (Text.lower (String.ofList (Text.strip (value.toList.takeWhile (· ≠ '#')))))

end RuleLevel

/-- What a setting is about. -/
inductive LevelTarget where
  | rule (id : String)
  | category (name : String)
  deriving DecidableEq

namespace LevelTarget

/-- The beginning of keys about a rule. -/
def ruleStart : String := "dotnet_diagnostic."

/-- The beginning of keys about a category. -/
def categoryStart : String := "dotnet_analyzer_diagnostic.category-"

/-- The end of keys about levels. -/
def tail : String := ".severity"

/-- The part of a key between a beginning and the end. -/
def middle (key start : String) : String := Text.dropFirst (Text.dropLast key tail.length) start.length

/-- What a key is about; most keys are about something else than levels. -/
def ofKey? (key : String) : Option LevelTarget :=
  if Text.endsWith key tail then
    if Text.startsWith key ruleStart then some (.rule (Text.upper (middle key ruleStart)))
    else if Text.startsWith key categoryStart then some (.category (Text.lower (middle key categoryStart)))
    else none
  else none

end LevelTarget

/-- The levels of rules and of categories. -/
structure RuleLevels where
  rules : Table String RuleLevel := .empty
  categories : Table String RuleLevel := .empty

namespace RuleLevels

def set (levels : RuleLevels) (target : LevelTarget) (level : RuleLevel) : RuleLevels :=
  match target with
  | .rule id => { levels with rules := levels.rules.insert id level }
  | .category name => { levels with categories := levels.categories.insert name level }

/-- The level of a rule. -/
def levelOf (levels : RuleLevels) (rule : Rule) : RuleLevel :=
  (levels.rules.get? rule.id).getD ((levels.categories.get? (Text.lower rule.category)).getD .standard)

end RuleLevels

end Mediation
