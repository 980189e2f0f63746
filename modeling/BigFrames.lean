import BigFrames.Model.Basic
import BigFrames.Model.Nodes
import BigFrames.Program.Fields
import BigFrames.Program.Prune
import BigFrames.Program.Complexity
import BigFrames.Program.Sources
import BigFrames.Program.Namespace
import BigFrames.Program.Session
import BigFrames.Program.Equality
import BigFrames.Program.DefaultOrdering
import BigFrames.Program.SingleColumn
import BigFrames.Interface.Semantics
import BigFrames.Analysis.PruneSchema
import BigFrames.Analysis.PruneStages
import BigFrames.Analysis.PruneScope
import BigFrames.Analysis.PruneSemantics
import BigFrames.Analysis.PrunePlanning
import BigFrames.Analysis.PruneSources
import BigFrames.Analysis.PruneNamespace
import BigFrames.Analysis.SubtreeComplexity
import BigFrames.Analysis.RowPreserving
import BigFrames.Analysis.AppendOnly
import BigFrames.Analysis.SessionResolution
import BigFrames.Analysis.SessionSubtrees
import BigFrames.Analysis.NodeEquality
import BigFrames.Analysis.Fingerprint
import BigFrames.Analysis.JoinCompiler
