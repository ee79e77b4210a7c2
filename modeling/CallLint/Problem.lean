import CallLint.Json.Problem
import CallLint.Pattern

/-!
# Problems with a configuration

Everything that can be wrong with a configuration, each with its wording. Linting itself never
fails.
-/

namespace CallLint

/-- Why a configuration is refused. -/
inductive Problem where
  /-- The text names no expectation. -/
  | expectation (raw : Text)
  /-- The text names nothing that can be ignored. -/
  | ignore (raw : Text)
  /-- The entry has a flag that patterns do not have. -/
  | patternFlag (entry : Text) (flag : Char)
  /-- The pattern of the entry is refused. -/
  | pattern (entry : Text) (fault : PatternFault)
  /-- The JSON text cannot be read. -/
  | json (problem : Json.Problem)
  deriving DecidableEq, Repr

/-- The wording of a problem. What exactly is wrong with a pattern is not told. -/
def Problem.message : Problem → String
  | .expectation raw =>
    "无效的 expectation \"" ++ String.ofList raw ++ "\"，可选值为 \"always\" 或 \"never\""
  | .ignore raw =>
    "无效的 ignore 选项 \"" ++ String.ofList raw ++ "\"，仅支持 \"single-argument\""
  | .patternFlag entry flag =>
    "ignoreFunctions 中的正则 " ++ String.ofList entry ++ " 含有不支持的标志 '" ++
      String.singleton flag ++ "'"
  | .pattern entry _ => "ignoreFunctions 中的正则 " ++ String.ofList entry ++ " 编译失败"
  | .json problem => "规则配置解析失败: " ++ problem.message

end CallLint
