import ReplyTemplate.Host
import ReplyTemplate.Main
import ReplyTemplate.Proofs.Evaluation.Replay
import ReplyTemplate.Proofs.Template.RoundTrip
import ReplyTemplate.Proofs.Template.Modes
import ReplyTemplate.Proofs.Token.Spelling
import ReplyTemplate.Proofs.Template.Balance
import ReplyTemplate.Proofs.Template.Shift
import ReplyTemplate.Proofs.Template.ErrorPlace
import ReplyTemplate.Proofs.Template.Plain
import ReplyTemplate.Proofs.Template.Concatenation
import ReplyTemplate.Proofs.Template.Refusal
import ReplyTemplate.Proofs.Template.Enclosed
import ReplyTemplate.Proofs.Evaluation.SameKeys
import ReplyTemplate.Proofs.Engine.Session
import ReplyTemplate.Proofs.Standard.Counter
import ReplyTemplate.Proofs.Standard.Split
import ReplyTemplate.Proofs.Evaluation.Errors
import ReplyTemplate.Proofs.Evaluation.Within
import ReplyTemplate.Proofs.Evaluation.Normal
import ReplyTemplate.Proofs.Service.Isolation
import ReplyTemplate.Proofs.Table.Substitution
import ReplyTemplate.Proofs.Table.Merge
import ReplyTemplate.Proofs.Registry
import ReplyTemplate.Proofs.Registry.Similar
import ReplyTemplate.Proofs.Template.Json
import ReplyTemplate.Proofs.Service.Answers
import ReplyTemplate.Proofs.Template.Levels
