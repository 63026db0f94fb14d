import PlanCode.File.Tree
import PlanCode.Json.Reader
import PlanCode.Main
import PlanCode.Proofs.Call.Definitions
import PlanCode.Proofs.Call.Refusal
import PlanCode.Proofs.Convert.Address
import PlanCode.Proofs.Convert.Arity
import PlanCode.Proofs.Convert.Carried
import PlanCode.Proofs.Convert.HoldTime
import PlanCode.Proofs.Convert.ZeroDuration
import PlanCode.Proofs.Element.Symbolic
import PlanCode.Proofs.Expression.Arguments
import PlanCode.Proofs.Expression.Restored
import PlanCode.Proofs.Expression.Sum
import PlanCode.Proofs.Layout.OneLine
import PlanCode.Proofs.Number.Compiled
import PlanCode.Proofs.Plan.Convertible
import PlanCode.Proofs.Plan.Counted
import PlanCode.Proofs.Plan.Pruned
import PlanCode.Proofs.PlanFile.ReadBack
import PlanCode.Proofs.Profile.FixedCall
import PlanCode.Proofs.Profile.Reconstruct
import PlanCode.Proofs.Profile.StageOption
import PlanCode.Proofs.Settings.Overrides
import PlanCode.Proofs.Surface.Overloads
import PlanCode.Proofs.TestClass.Commas
import PlanCode.Proofs.TestClass.Imports
import PlanCode.Proofs.TestClass.ModuleCalls
import PlanCode.Proofs.TestClass.Names
import PlanCode.Proofs.TestClass.Strings
import PlanCode.Proofs.Text.JavaLiteral
import PlanCode.Proofs.Tools.Answer
