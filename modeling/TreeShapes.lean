import TreeShapes.BinaryTree.Grammar
import TreeShapes.BinaryTree.Printing
import TreeShapes.BinaryTree.Reading
import TreeShapes.CommandLine.Run
import TreeShapes.Cursor.Walk
import TreeShapes.Main
import TreeShapes.Proofs.ConfiguredLiterals
import TreeShapes.Proofs.CursorQuestions
import TreeShapes.Proofs.CursorReadings
import TreeShapes.Proofs.CursorWalks
import TreeShapes.Proofs.EarliestErrors
import TreeShapes.Proofs.ErrorMessages
import TreeShapes.Proofs.ExactExpectations
import TreeShapes.Proofs.ExchangedTrees
import TreeShapes.Proofs.FlatChoices
import TreeShapes.Proofs.Groupings
import TreeShapes.Proofs.Interchange
import TreeShapes.Proofs.LeavesInOrder
import TreeShapes.Proofs.LeftoverTokens
import TreeShapes.Proofs.ListSuffixes
import TreeShapes.Proofs.Lookahead
import TreeShapes.Proofs.NormalForms
import TreeShapes.Proofs.OpaqueLiterals
import TreeShapes.Proofs.Outlines
import TreeShapes.Proofs.PrintedTrees
import TreeShapes.Proofs.QuotedText
import TreeShapes.Proofs.ReliableExpectations
import TreeShapes.Proofs.SessionProgress
import TreeShapes.Proofs.SharedLanguage
import TreeShapes.Proofs.Spellings
import TreeShapes.Proofs.StoppingPoints
import TreeShapes.Proofs.TokenArguments
import TreeShapes.Proofs.TracedReadings
import TreeShapes.Proofs.TreeEquality
import TreeShapes.Proofs.TreeGrammar
import TreeShapes.Proofs.TreeNumbers
import TreeShapes.Proofs.TreeSize
import TreeShapes.Proofs.TypeGrammar
import TreeShapes.Proofs.UnclosedBrackets
import TreeShapes.Proofs.WrittenOutLists
import TreeShapes.Session
import TreeShapes.Trace
import TreeShapes.TypeExpr.Grammar
import TreeShapes.TypeExpr.Layout
import TreeShapes.TypeExpr.Leaves
import TreeShapes.TypeExpr.Normal
