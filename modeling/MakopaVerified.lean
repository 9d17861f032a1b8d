import MakopaVerified.Admission.Proofs.CeilingProofs
import MakopaVerified.Admission.Proofs.PathScreenProofs
import MakopaVerified.Admission.Proofs.TransitiveProofs
import MakopaVerified.Boot.Proofs.TeardownOrderProofs
import MakopaVerified.Driver.Proofs.PairingProofs
import MakopaVerified.TaskRuntime.Proofs.CooperativeRunProofs
import MakopaVerified.TaskRuntime.Proofs.CounterProofs
import MakopaVerified.TaskRuntime.Proofs.HandleProofs
import MakopaVerified.TaskRuntime.Proofs.LaunchProofs
import MakopaVerified.TaskRuntime.Proofs.RedactionProofs
import MakopaVerified.TaskRuntime.Proofs.ShutdownProofs
import MakopaVerified.Driver.Proofs.SuccessProofs
import MakopaVerified.Boot.Proofs.OverrideProofs
