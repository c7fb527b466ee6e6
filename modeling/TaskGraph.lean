import TaskGraph.Main
import TaskGraph.Proofs.DocumentFault
import TaskGraph.Proofs.EdgeEnds
import TaskGraph.Proofs.FitFloor
import TaskGraph.Proofs.GraphJson
import TaskGraph.Proofs.GridShape
import TaskGraph.Proofs.Highlight
import TaskGraph.Proofs.HoverDelivery
import TaskGraph.Proofs.IconSearch
import TaskGraph.Proofs.JoinNormal
import TaskGraph.Proofs.JoinSize
import TaskGraph.Proofs.LatestRecord
import TaskGraph.Proofs.NodeList
import TaskGraph.Proofs.Opening
import TaskGraph.Proofs.Outline
import TaskGraph.Proofs.PipelinePath
import TaskGraph.Proofs.Rearrangement
import TaskGraph.Proofs.RecordStamps
import TaskGraph.Proofs.RelevantParts
import TaskGraph.Proofs.Separation
import TaskGraph.Proofs.SharedJoin
import TaskGraph.Proofs.SnakeWalk
import TaskGraph.Proofs.StepTargets
import TaskGraph.Proofs.TaskOrder
import TaskGraph.Proofs.TriggerNode
